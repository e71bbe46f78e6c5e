/-!
# Rules for daylight saving time

The rules that zones refer to, by name. A rule is written as its first year, its last year (a dash
where it holds for good), month, day, time, saving and letters. The day is a number, a weekday on or
after or before one, or the last weekday of the month; a time ends in `s` when it is standard time
and in `u` when it is universal time; a dash stands for no letters.
-/

namespace Newswire.Calendar.Zone

def ruleTable : List (String × List String) := [
  ("A", [
    "1930 1930 12 1 0 1 -", "1931 1931 4 1 0 0 -", "1931 1931 10 15 0 1 -",
    "1932 1940 3 1 0 0 -", "1932 1939 11 1 0 1 -", "1940 1940 7 1 0 1 -",
    "1941 1941 6 15 0 0 -", "1941 1941 10 15 0 1 -", "1943 1943 8 1 0 0 -",
    "1943 1943 10 15 0 1 -", "1946 1946 3 1 0 0 -", "1946 1946 10 1 0 1 -",
    "1963 1963 10 1 0 0 -", "1963 1963 12 15 0 1 -", "1964 1966 3 1 0 0 -",
    "1964 1966 10 15 0 1 -", "1967 1967 4 2 0 0 -", "1967 1968 10 Sun>=1 0 1 -",
    "1968 1969 4 Sun>=1 0 0 -", "1974 1974 1 23 0 1 -", "1974 1974 5 1 0 0 -",
    "1988 1988 12 1 0 1 -", "1989 1993 3 Sun>=1 0 0 -", "1989 1992 10 Sun>=15 0 1 -",
    "1999 1999 10 Sun>=1 0 1 -", "2000 2000 3 3 0 0 -", "2007 2007 12 30 0 1 -",
    "2008 2009 3 Sun>=15 0 0 -", "2008 2008 10 Sun>=15 0 1 -"]),
  ("AM", ["2011 2011 3 last-Sun 2s 1 -", "2011 2011 10 last-Sun 2s 0 -"]),
  ("AN", [
    "1971 1985 10 last-Sun 2s 1 D", "1972 1972 2 27 2s 0 S", "1973 1981 3 Sun>=1 2s 0 S",
    "1982 1982 4 Sun>=1 2s 0 S", "1983 1985 3 Sun>=1 2s 0 S", "1986 1989 3 Sun>=15 2s 0 S",
    "1986 1986 10 19 2s 1 D", "1987 1999 10 last-Sun 2s 1 D", "1990 1995 3 Sun>=1 2s 0 S",
    "1996 2005 3 last-Sun 2s 0 S", "2000 2000 8 last-Sun 2s 1 D",
    "2001 2007 10 last-Sun 2s 1 D", "2006 2006 4 Sun>=1 2s 0 S", "2007 2007 3 last-Sun 2s 0 S",
    "2008 - 4 Sun>=1 2s 0 S", "2008 - 10 Sun>=1 2s 1 D"]),
  ("AQ", [
    "1971 1971 10 last-Sun 2s 1 D", "1972 1972 2 last-Sun 2s 0 S",
    "1989 1991 10 last-Sun 2s 1 D", "1990 1992 3 Sun>=1 2s 0 S"]),
  ("AS", [
    "1971 1985 10 last-Sun 2s 1 D", "1986 1986 10 19 2s 1 D", "1987 2007 10 last-Sun 2s 1 D",
    "1972 1972 2 27 2s 0 S", "1973 1985 3 Sun>=1 2s 0 S", "1986 1990 3 Sun>=15 2s 0 S",
    "1991 1991 3 3 2s 0 S", "1992 1992 3 22 2s 0 S", "1993 1993 3 7 2s 0 S",
    "1994 1994 3 20 2s 0 S", "1995 2005 3 last-Sun 2s 0 S", "2006 2006 4 2 2s 0 S",
    "2007 2007 3 last-Sun 2s 0 S", "2008 - 4 Sun>=1 2s 0 S", "2008 - 10 Sun>=1 2s 1 D"]),
  ("AT", [
    "1916 1916 10 Sun>=1 2s 1 D", "1917 1917 3 last-Sun 2s 0 S", "1917 1918 10 Sun>=22 2s 1 D",
    "1918 1919 3 Sun>=1 2s 0 S", "1967 1967 10 Sun>=1 2s 1 D", "1968 1968 3 Sun>=29 2s 0 S",
    "1968 1985 10 last-Sun 2s 1 D", "1969 1971 3 Sun>=8 2s 0 S", "1972 1972 2 last-Sun 2s 0 S",
    "1973 1981 3 Sun>=1 2s 0 S", "1982 1983 3 last-Sun 2s 0 S", "1984 1986 3 Sun>=1 2s 0 S",
    "1986 1986 10 Sun>=15 2s 1 D", "1987 1990 3 Sun>=15 2s 0 S", "1987 1987 10 Sun>=22 2s 1 D",
    "1988 1990 10 last-Sun 2s 1 D", "1991 1999 10 Sun>=1 2s 1 D", "1991 2005 3 last-Sun 2s 0 S",
    "2000 2000 8 last-Sun 2s 1 D", "2001 - 10 Sun>=1 2s 1 D", "2006 2006 4 Sun>=1 2s 0 S",
    "2007 2007 3 last-Sun 2s 0 S", "2008 - 4 Sun>=1 2s 0 S"]),
  ("AU", [
    "1917 1917 1 1 2s 1 D", "1917 1917 3 last-Sun 2s 0 S", "1942 1942 1 1 2s 1 D",
    "1942 1942 3 last-Sun 2s 0 S", "1942 1942 9 27 2s 1 D", "1943 1944 3 last-Sun 2s 0 S",
    "1943 1943 10 3 2s 1 D"]),
  ("AV", [
    "1971 1985 10 last-Sun 2s 1 D", "1972 1972 2 last-Sun 2s 0 S", "1973 1985 3 Sun>=1 2s 0 S",
    "1986 1990 3 Sun>=15 2s 0 S", "1986 1987 10 Sun>=15 2s 1 D", "1988 1999 10 last-Sun 2s 1 D",
    "1991 1994 3 Sun>=1 2s 0 S", "1995 2005 3 last-Sun 2s 0 S", "2000 2000 8 last-Sun 2s 1 D",
    "2001 2007 10 last-Sun 2s 1 D", "2006 2006 4 Sun>=1 2s 0 S", "2007 2007 3 last-Sun 2s 0 S",
    "2008 - 4 Sun>=1 2s 0 S", "2008 - 10 Sun>=1 2s 1 D"]),
  ("AW", [
    "1974 1974 10 last-Sun 2s 1 D", "1975 1975 3 Sun>=1 2s 0 S", "1983 1983 10 last-Sun 2s 1 D",
    "1984 1984 3 Sun>=1 2s 0 S", "1991 1991 11 17 2s 1 D", "1992 1992 3 Sun>=1 2s 0 S",
    "2006 2006 12 3 2s 1 D", "2007 2009 3 last-Sun 2s 0 S", "2007 2008 10 last-Sun 2s 1 D"]),
  ("AZ", ["1997 2015 3 last-Sun 4 1 -", "1997 2015 10 last-Sun 5 0 -"]),
  ("B", [
    "1931 1931 10 3 11 1 -", "1932 1933 4 1 0 0 -", "1932 1932 10 3 0 1 -",
    "1949 1952 12 1 0 1 -", "1950 1950 4 16 1 0 -", "1951 1952 4 1 0 0 -",
    "1953 1953 3 1 0 0 -", "1963 1963 12 9 0 1 -", "1964 1964 3 1 0 0 -",
    "1965 1965 1 31 0 1 -", "1965 1965 3 31 0 0 -", "1965 1965 12 1 0 1 -",
    "1966 1968 3 1 0 0 -", "1966 1967 11 1 0 1 -", "1985 1985 11 2 0 1 -",
    "1986 1986 3 15 0 0 -", "1986 1986 10 25 0 1 -", "1987 1987 2 14 0 0 -",
    "1987 1987 10 25 0 1 -", "1988 1988 2 7 0 0 -", "1988 1988 10 16 0 1 -",
    "1989 1989 1 29 0 0 -", "1989 1989 10 15 0 1 -", "1990 1990 2 11 0 0 -",
    "1990 1990 10 21 0 1 -", "1991 1991 2 17 0 0 -", "1991 1991 10 20 0 1 -",
    "1992 1992 2 9 0 0 -", "1992 1992 10 25 0 1 -", "1993 1993 1 31 0 0 -",
    "1993 1995 10 Sun>=11 0 1 -", "1994 1995 2 Sun>=15 0 0 -", "1996 1996 2 11 0 0 -",
    "1996 1996 10 6 0 1 -", "1997 1997 2 16 0 0 -", "1997 1997 10 6 0 1 -",
    "1998 1998 3 1 0 0 -", "1998 1998 10 11 0 1 -", "1999 1999 2 21 0 0 -",
    "1999 1999 10 3 0 1 -", "2000 2000 2 27 0 0 -", "2000 2001 10 Sun>=8 0 1 -",
    "2001 2006 2 Sun>=15 0 0 -", "2002 2002 11 3 0 1 -", "2003 2003 10 19 0 1 -",
    "2004 2004 11 2 0 1 -", "2005 2005 10 16 0 1 -", "2006 2006 11 5 0 1 -",
    "2007 2007 2 25 0 0 -", "2007 2007 10 Sun>=8 0 1 -", "2008 2017 10 Sun>=15 0 1 -",
    "2008 2011 2 Sun>=15 0 0 -", "2012 2012 2 Sun>=22 0 0 -", "2013 2014 2 Sun>=15 0 0 -",
    "2015 2015 2 Sun>=22 0 0 -", "2016 2019 2 Sun>=15 0 0 -", "2018 2018 11 Sun>=1 0 1 -"]),
  ("BB", [
    "1942 1942 4 19 5u 1 D", "1942 1942 8 31 6u 0 S", "1943 1943 5 2 5u 1 D",
    "1943 1943 9 5 6u 0 S", "1944 1944 4 10 5u 0:30 -", "1944 1944 9 10 6u 0 S",
    "1977 1977 6 12 2 1 D", "1977 1978 10 Sun>=1 2 0 S", "1978 1980 4 Sun>=15 2 1 D",
    "1979 1979 9 30 2 0 S", "1980 1980 9 25 2 0 S"]),
  ("BD", ["2009 2009 6 19 23 1 -", "2009 2009 12 31 24 0 -"]),
  ("BG", [
    "1979 1979 3 31 23 1 S", "1979 1979 10 1 1 0 -", "1980 1982 4 Sat>=1 23 1 S",
    "1980 1980 9 29 1 0 -", "1981 1981 9 27 2 0 -"]),
  ("BZ", [
    "1918 1941 10 Sat>=1 24 0:30 -0530", "1919 1942 2 Sat>=8 24 0 CST",
    "1942 1942 6 27 24 1 CWT", "1945 1945 8 14 23u 1 CPT", "1945 1945 12 15 24 0 CST",
    "1947 1967 10 Sat>=1 24 0:30 -0530", "1948 1968 2 Sat>=8 24 0 CST",
    "1973 1973 12 5 0 1 CDT", "1974 1974 2 9 0 0 CST", "1982 1982 12 18 0 1 CDT",
    "1983 1983 2 12 0 0 CST"]),
  ("Be", [
    "1917 1917 4 5 24 1 -", "1917 1917 9 30 24 0 -", "1918 1918 4 13 24 1 -",
    "1918 1918 9 15 24 0 S", "1942 1942 1 11 2 1 D", "1942 1942 10 18 2 0 S",
    "1943 1943 3 21 2 1 D", "1943 1943 10 31 2 0 S", "1944 1945 3 Sun>=8 2 1 D",
    "1944 1945 11 Sun>=1 2 0 S", "1947 1947 5 Sun>=15 2 1 D", "1947 1947 9 Sun>=8 2 0 S",
    "1948 1952 5 Sun>=22 2 1 D", "1948 1952 9 Sun>=1 2 0 S", "1956 1956 5 Sun>=22 2 1 D",
    "1956 1956 10 last-Sun 2 0 S"]),
  ("C", [
    "1918 1918 4 14 2 1 D", "1918 1918 10 27 2 0 S", "1942 1942 2 9 2 1 W",
    "1945 1945 8 14 23u 1 P", "1945 1945 9 30 2 0 S", "1974 1986 4 last-Sun 2 1 D",
    "1974 2006 10 last-Sun 2 0 S", "1987 2006 4 Sun>=1 2 1 D", "2007 - 3 Sun>=8 2 1 D",
    "2007 - 11 Sun>=1 2 0 S"]),
  ("CA", [
    "1948 1948 3 14 2:1 1 D", "1949 1949 1 1 2 0 S", "1950 1966 4 last-Sun 1 1 D",
    "1950 1961 9 last-Sun 2 0 S", "1962 1966 10 last-Sun 2 0 S"]),
  ("CH", ["1941 1942 5 Mon>=1 1 1 S", "1941 1942 10 Mon>=1 2 0 -"]),
  ("CK", [
    "1978 1978 11 12 0 0:30 -", "1979 1991 3 Sun>=1 0 0 -", "1979 1990 10 last-Sun 0 0:30 -"]),
  ("CN", ["1986 1986 5 4 2 1 D", "1986 1991 9 Sun>=11 2 0 S", "1987 1991 4 Sun>=11 2 1 D"]),
  ("CO", ["1992 1992 5 3 0 1 -", "1993 1993 2 6 24 0 -"]),
  ("CR", [
    "1979 1980 2 last-Sun 0 1 D", "1979 1980 6 Sun>=1 0 0 S", "1991 1992 1 Sat>=15 0 1 D",
    "1991 1991 7 1 0 0 S", "1992 1992 3 15 0 0 S"]),
  ("CY", [
    "1975 1975 4 13 0 1 S", "1975 1975 10 12 0 0 -", "1976 1976 5 15 0 1 S",
    "1976 1976 10 11 0 0 -", "1977 1980 4 Sun>=1 0 1 S", "1977 1977 9 25 0 0 -",
    "1978 1978 10 2 0 0 -", "1979 1997 9 last-Sun 0 0 -", "1981 1998 3 last-Sun 0 1 S"]),
  ("CZ", [
    "1945 1945 4 Mon>=1 2s 1 S", "1945 1945 10 1 2s 0 -", "1946 1946 5 6 2s 1 S",
    "1946 1949 10 Sun>=1 2s 0 -", "1947 1948 4 Sun>=15 2s 1 S", "1949 1949 4 9 2s 1 S"]),
  ("Ch", [
    "1920 1920 6 13 2 1 D", "1920 1921 10 last-Sun 2 0 S", "1921 1921 3 last-Sun 2 1 D",
    "1922 1966 4 last-Sun 2 1 D", "1922 1954 9 last-Sun 2 0 S", "1955 1966 10 last-Sun 2 0 S"]),
  ("DE", [
    "1946 1946 4 14 2s 1 S", "1946 1946 10 7 2s 0 -", "1947 1949 10 Sun>=1 2s 0 -",
    "1947 1947 4 6 3s 1 S", "1947 1947 5 11 2s 2 M", "1947 1947 6 29 3 1 S",
    "1948 1948 4 18 2s 1 S", "1949 1949 4 10 2s 1 S"]),
  ("DO", [
    "1966 1966 10 30 0 1 EDT", "1967 1967 2 28 0 0 EST", "1969 1973 10 last-Sun 0 0:30 -0430",
    "1970 1970 2 21 0 0 EST", "1971 1971 1 20 0 0 EST", "1972 1974 1 21 0 0 EST"]),
  ("De", [
    "1920 1921 3 last-Sun 2 1 D", "1920 1920 10 last-Sun 2 0 S", "1921 1921 5 22 2 0 S",
    "1965 1966 4 last-Sun 2 1 D", "1965 1966 10 last-Sun 2 0 S"]),
  ("Dt", ["1948 1948 4 last-Sun 2 1 D", "1948 1948 9 last-Sun 2 0 S"]),
  ("E", [
    "1977 1980 4 Sun>=1 1u 1 S", "1977 1977 9 last-Sun 1u 0 -", "1978 1978 10 1 1u 0 -",
    "1979 1995 9 last-Sun 1u 0 -", "1981 - 3 last-Sun 1u 1 S", "1996 - 10 last-Sun 1u 0 -"]),
  ("EC", ["1992 1992 11 28 0 1 -", "1993 1993 2 5 0 0 -"]),
  ("Ed", [
    "1918 1919 4 Sun>=8 2 1 D", "1918 1918 10 27 2 0 S", "1919 1919 5 27 2 0 S",
    "1920 1923 4 last-Sun 2 1 D", "1920 1920 10 last-Sun 2 0 S", "1921 1923 9 last-Sun 2 0 S",
    "1942 1942 2 9 2 1 W", "1945 1945 8 14 23u 1 P", "1945 1945 9 last-Sun 2 0 S",
    "1947 1947 4 last-Sun 2 1 D", "1947 1947 9 last-Sun 2 0 S", "1972 1986 4 last-Sun 2 1 D",
    "1972 2006 10 last-Sun 2 0 S"]),
  ("F", [
    "1916 1916 6 14 23s 1 S", "1916 1919 10 Sun>=1 23s 0 -", "1917 1917 3 24 23s 1 S",
    "1918 1918 3 9 23s 1 S", "1919 1919 3 1 23s 1 S", "1920 1920 2 14 23s 1 S",
    "1920 1920 10 23 23s 0 -", "1921 1921 3 14 23s 1 S", "1921 1921 10 25 23s 0 -",
    "1922 1922 3 25 23s 1 S", "1922 1938 10 Sat>=1 23s 0 -", "1923 1923 5 26 23s 1 S",
    "1924 1924 3 29 23s 1 S", "1925 1925 4 4 23s 1 S", "1926 1926 4 17 23s 1 S",
    "1927 1927 4 9 23s 1 S", "1928 1928 4 14 23s 1 S", "1929 1929 4 20 23s 1 S",
    "1930 1930 4 12 23s 1 S", "1931 1931 4 18 23s 1 S", "1932 1932 4 2 23s 1 S",
    "1933 1933 3 25 23s 1 S", "1934 1934 4 7 23s 1 S", "1935 1935 3 30 23s 1 S",
    "1936 1936 4 18 23s 1 S", "1937 1937 4 3 23s 1 S", "1938 1938 3 26 23s 1 S",
    "1939 1939 4 15 23s 1 S", "1939 1939 11 18 23s 0 -", "1940 1940 2 25 2 1 S",
    "1941 1941 5 5 0 2 M", "1941 1941 10 6 0 1 S", "1942 1942 3 9 0 2 M",
    "1942 1942 11 2 3 1 S", "1943 1943 3 29 2 2 M", "1943 1943 10 4 3 1 S",
    "1944 1944 4 3 2 2 M", "1944 1944 10 8 1 1 S", "1945 1945 4 2 2 2 M",
    "1945 1945 9 16 3 0 -", "1976 1976 3 28 1 1 S", "1976 1976 9 26 1 0 -"]),
  ("FI", [
    "1942 1942 4 2 24 1 S", "1942 1942 10 4 1 0 -", "1981 1982 3 last-Sun 2 1 S",
    "1981 1982 9 last-Sun 3 0 -"]),
  ("FJ", [
    "1998 1999 11 Sun>=1 2 1 -", "1999 2000 2 last-Sun 3 0 -", "2009 2009 11 29 2 1 -",
    "2010 2010 3 last-Sun 3 0 -", "2010 2013 10 Sun>=21 2 1 -", "2011 2011 3 Sun>=1 3 0 -",
    "2012 2013 1 Sun>=18 3 0 -", "2014 2014 1 Sun>=18 2 0 -", "2014 2018 11 Sun>=1 2 1 -",
    "2015 2021 1 Sun>=12 3 0 -", "2019 2019 11 Sun>=8 2 1 -", "2020 2020 12 20 2 1 -"]),
  ("FK", [
    "1937 1938 9 last-Sun 0 1 -", "1938 1942 3 Sun>=19 0 0 -", "1939 1939 10 1 0 1 -",
    "1940 1942 9 last-Sun 0 1 -", "1943 1943 1 1 0 0 -", "1983 1983 9 last-Sun 0 1 -",
    "1984 1985 4 last-Sun 0 0 -", "1984 1984 9 16 0 1 -", "1985 2000 9 Sun>=9 0 1 -",
    "1986 2000 4 Sun>=16 0 0 -", "2001 2010 4 Sun>=15 2 0 -", "2001 2010 9 Sun>=1 2 1 -"]),
  ("G", [
    "1916 1916 5 21 2s 1 BST", "1916 1916 10 1 2s 0 GMT", "1917 1917 4 8 2s 1 BST",
    "1917 1917 9 17 2s 0 GMT", "1918 1918 3 24 2s 1 BST", "1918 1918 9 30 2s 0 GMT",
    "1919 1919 3 30 2s 1 BST", "1919 1919 9 29 2s 0 GMT", "1920 1920 3 28 2s 1 BST",
    "1920 1920 10 25 2s 0 GMT", "1921 1921 4 3 2s 1 BST", "1921 1921 10 3 2s 0 GMT",
    "1922 1922 3 26 2s 1 BST", "1922 1922 10 8 2s 0 GMT", "1923 1923 4 Sun>=16 2s 1 BST",
    "1923 1924 9 Sun>=16 2s 0 GMT", "1924 1924 4 Sun>=9 2s 1 BST",
    "1925 1926 4 Sun>=16 2s 1 BST", "1925 1938 10 Sun>=2 2s 0 GMT",
    "1927 1927 4 Sun>=9 2s 1 BST", "1928 1929 4 Sun>=16 2s 1 BST",
    "1930 1930 4 Sun>=9 2s 1 BST", "1931 1932 4 Sun>=16 2s 1 BST",
    "1933 1933 4 Sun>=9 2s 1 BST", "1934 1934 4 Sun>=16 2s 1 BST",
    "1935 1935 4 Sun>=9 2s 1 BST", "1936 1937 4 Sun>=16 2s 1 BST",
    "1938 1938 4 Sun>=9 2s 1 BST", "1939 1939 4 Sun>=16 2s 1 BST",
    "1939 1939 11 Sun>=16 2s 0 GMT", "1940 1940 2 Sun>=23 2s 1 BST",
    "1941 1941 5 Sun>=2 1s 2 BDST", "1941 1943 8 Sun>=9 1s 1 BST",
    "1942 1944 4 Sun>=2 1s 2 BDST", "1944 1944 9 Sun>=16 1s 1 BST",
    "1945 1945 4 Mon>=2 1s 2 BDST", "1945 1945 7 Sun>=9 1s 1 BST",
    "1945 1946 10 Sun>=2 2s 0 GMT", "1946 1946 4 Sun>=9 2s 1 BST", "1947 1947 3 16 2s 1 BST",
    "1947 1947 4 13 1s 2 BDST", "1947 1947 8 10 1s 1 BST", "1947 1947 11 2 2s 0 GMT",
    "1948 1948 3 14 2s 1 BST", "1948 1948 10 31 2s 0 GMT", "1949 1949 4 3 2s 1 BST",
    "1949 1949 10 30 2s 0 GMT", "1950 1952 4 Sun>=14 2s 1 BST", "1950 1952 10 Sun>=21 2s 0 GMT",
    "1953 1953 4 Sun>=16 2s 1 BST", "1953 1960 10 Sun>=2 2s 0 GMT",
    "1954 1954 4 Sun>=9 2s 1 BST", "1955 1956 4 Sun>=16 2s 1 BST",
    "1957 1957 4 Sun>=9 2s 1 BST", "1958 1959 4 Sun>=16 2s 1 BST",
    "1960 1960 4 Sun>=9 2s 1 BST", "1961 1963 3 last-Sun 2s 1 BST",
    "1961 1968 10 Sun>=23 2s 0 GMT", "1964 1967 3 Sun>=19 2s 1 BST", "1968 1968 2 18 2s 1 BST",
    "1972 1980 3 Sun>=16 2s 1 BST", "1972 1980 10 Sun>=23 2s 0 GMT",
    "1981 1995 3 last-Sun 1u 1 BST", "1981 1989 10 Sun>=23 1u 0 GMT",
    "1990 1995 10 Sun>=22 1u 0 GMT"]),
  ("GT", [
    "1973 1973 11 25 0 1 D", "1974 1974 2 24 0 0 S", "1983 1983 5 21 0 1 D",
    "1983 1983 9 22 0 0 S", "1991 1991 3 23 0 1 D", "1991 1991 9 7 0 0 S",
    "2006 2006 4 30 0 1 D", "2006 2006 10 1 0 0 S"]),
  ("Gu", [
    "1959 1959 6 27 2 1 D", "1961 1961 1 29 2 0 S", "1967 1967 9 1 2 1 D",
    "1969 1969 1 26 0:1 0 S", "1969 1969 6 22 2 1 D", "1969 1969 8 31 2 0 S",
    "1970 1971 4 last-Sun 2 1 D", "1970 1971 9 Sun>=1 2 0 S", "1973 1973 12 16 2 1 D",
    "1974 1974 2 24 2 0 S", "1976 1976 5 26 2 1 D", "1976 1976 8 22 2:1 0 S",
    "1977 1977 4 24 2 1 D", "1977 1977 8 28 2 0 S"]),
  ("H", [
    "1916 1916 4 1 0 1 D", "1916 1916 10 1 0 0 S", "1920 1920 5 9 0 1 D",
    "1920 1920 8 29 0 0 S", "1921 1921 5 6 0 1 D", "1921 1922 9 5 0 0 S",
    "1922 1922 4 30 0 1 D", "1923 1925 5 Sun>=1 0 1 D", "1923 1923 9 4 0 0 S",
    "1924 1924 9 15 0 0 S", "1925 1925 9 28 0 0 S", "1926 1926 5 16 0 1 D",
    "1926 1926 9 13 0 0 S", "1927 1927 5 1 0 1 D", "1927 1927 9 26 0 0 S",
    "1928 1931 5 Sun>=8 0 1 D", "1928 1928 9 9 0 0 S", "1929 1929 9 3 0 0 S",
    "1930 1930 9 15 0 0 S", "1931 1932 9 Mon>=24 0 0 S", "1932 1932 5 1 0 1 D",
    "1933 1933 4 30 0 1 D", "1933 1933 10 2 0 0 S", "1934 1934 5 20 0 1 D",
    "1934 1934 9 16 0 0 S", "1935 1935 6 2 0 1 D", "1935 1935 9 30 0 0 S",
    "1936 1936 6 1 0 1 D", "1936 1936 9 14 0 0 S", "1937 1938 5 Sun>=1 0 1 D",
    "1937 1941 9 Mon>=24 0 0 S", "1939 1939 5 28 0 1 D", "1940 1941 5 Sun>=1 0 1 D",
    "1946 1949 4 last-Sun 2 1 D", "1946 1949 9 last-Sun 2 0 S", "1951 1954 4 last-Sun 2 1 D",
    "1951 1954 9 last-Sun 2 0 S", "1956 1959 4 last-Sun 2 1 D", "1956 1959 9 last-Sun 2 0 S",
    "1962 1973 4 last-Sun 2 1 D", "1962 1973 10 last-Sun 2 0 S"]),
  ("HK", [
    "1946 1946 4 21 0 1 S", "1946 1946 12 1 3:30s 0 -", "1947 1947 4 13 3:30s 1 S",
    "1947 1947 11 30 3:30s 0 -", "1948 1948 5 2 3:30s 1 S", "1948 1952 10 Sun>=28 3:30s 0 -",
    "1949 1953 4 Sun>=1 3:30 1 S", "1953 1964 10 Sun>=31 3:30 0 -",
    "1954 1964 3 Sun>=18 3:30 1 S", "1965 1976 4 Sun>=16 3:30 1 S",
    "1965 1976 10 Sun>=16 3:30 0 -", "1973 1973 12 30 3:30 1 S", "1979 1979 5 13 3:30 1 S",
    "1979 1979 10 21 3:30 0 -"]),
  ("HN", [
    "1987 1988 5 Sun>=1 0 1 D", "1987 1988 9 last-Sun 0 0 S", "2006 2006 5 Sun>=1 0 1 D",
    "2006 2006 8 Mon>=1 0 0 S"]),
  ("HT", [
    "1983 1983 5 8 0 1 D", "1984 1987 4 last-Sun 0 1 D", "1983 1987 10 last-Sun 0 0 S",
    "1988 1997 4 Sun>=1 1s 1 D", "1988 1997 10 last-Sun 1s 0 S", "2005 2006 4 Sun>=1 0 1 D",
    "2005 2006 10 last-Sun 0 0 S", "2012 2015 3 Sun>=8 2 1 D", "2012 2015 11 Sun>=1 2 0 S",
    "2017 - 3 Sun>=8 2 1 D", "2017 - 11 Sun>=1 2 0 S"]),
  ("Ho", ["1992 1993 10 last-Sun 2s 1 D", "1993 1994 3 Sun>=1 2s 0 S"]),
  ("I", [
    "1916 1916 6 3 24 1 S", "1916 1917 9 30 24 0 -", "1917 1917 3 31 24 1 S",
    "1918 1918 3 9 24 1 S", "1918 1918 10 6 24 0 -", "1919 1919 3 1 24 1 S",
    "1919 1919 10 4 24 0 -", "1920 1920 3 20 24 1 S", "1920 1920 9 18 24 0 -",
    "1940 1940 6 14 24 1 S", "1942 1942 11 2 2s 0 -", "1943 1943 3 29 2s 1 S",
    "1943 1943 10 4 2s 0 -", "1944 1944 4 2 2s 1 S", "1944 1944 9 17 2s 0 -",
    "1945 1945 4 2 2 1 S", "1945 1945 9 15 1 0 -", "1946 1946 3 17 2s 1 S",
    "1946 1946 10 6 2s 0 -", "1947 1947 3 16 0s 1 S", "1947 1947 10 5 0s 0 -",
    "1948 1948 2 29 2s 1 S", "1948 1948 10 3 2s 0 -", "1966 1968 5 Sun>=22 0s 1 S",
    "1966 1966 9 24 24 0 -", "1967 1969 9 Sun>=22 0s 0 -", "1969 1969 6 1 0s 1 S",
    "1970 1970 5 31 0s 1 S", "1970 1970 9 last-Sun 0s 0 -", "1971 1972 5 Sun>=22 0s 1 S",
    "1971 1971 9 last-Sun 0s 0 -", "1972 1972 10 1 0s 0 -", "1973 1973 6 3 0s 1 S",
    "1973 1974 9 last-Sun 0s 0 -", "1974 1974 5 26 0s 1 S", "1975 1975 6 1 0s 1 S",
    "1975 1977 9 last-Sun 0s 0 -", "1976 1976 5 30 0s 1 S", "1977 1979 5 Sun>=22 0s 1 S",
    "1978 1978 10 1 0s 0 -", "1979 1979 9 30 0s 0 -"]),
  ("IQ", [
    "1982 1982 5 1 0 1 -", "1982 1984 10 1 0 0 -", "1983 1983 3 31 0 1 -",
    "1984 1985 4 1 0 1 -", "1985 1990 9 last-Sun 1s 0 -", "1986 1990 3 last-Sun 1s 1 -",
    "1991 2007 4 1 3s 1 -", "1991 2007 10 1 3s 0 -"]),
  ("In", ["1941 1941 6 22 2 1 D", "1941 1954 9 last-Sun 2 0 S", "1946 1954 4 last-Sun 2 1 D"]),
  ("J", [
    "1973 1973 6 6 0 1 S", "1973 1975 10 1 0 0 -", "1974 1977 5 1 0 1 S",
    "1976 1976 11 1 0 0 -", "1977 1977 10 1 0 0 -", "1978 1978 4 30 0 1 S",
    "1978 1978 9 30 0 0 -", "1985 1985 4 1 0 1 S", "1985 1985 10 1 0 0 -",
    "1986 1988 4 Fri>=1 0 1 S", "1986 1990 10 Fri>=1 0 0 -", "1989 1989 5 8 0 1 S",
    "1990 1990 4 27 0 1 S", "1991 1991 4 17 0 1 S", "1991 1991 9 27 0 0 -",
    "1992 1992 4 10 0 1 S", "1992 1993 10 Fri>=1 0 0 -", "1993 1998 4 Fri>=1 0 1 S",
    "1994 1994 9 Fri>=15 0 0 -", "1995 1998 9 Fri>=15 0s 0 -", "1999 1999 7 1 0s 1 S",
    "1999 2002 9 last-Fri 0s 0 -", "2000 2001 3 last-Thu 0s 1 S", "2002 2012 3 last-Thu 24 1 S",
    "2003 2003 10 24 0s 0 -", "2004 2004 10 15 0s 0 -", "2005 2005 9 last-Fri 0s 0 -",
    "2006 2011 10 last-Fri 0s 0 -", "2013 2013 12 20 0 0 -", "2014 2021 3 last-Thu 24 1 S",
    "2014 2022 10 last-Fri 0s 0 -", "2022 2022 2 last-Thu 24 1 S"]),
  ("JP", [
    "1948 1948 5 Sat>=1 24 1 D", "1948 1951 9 Sun>=9 1 0 S", "1949 1949 4 Sat>=1 24 1 D",
    "1950 1951 5 Sat>=1 24 1 D"]),
  ("K", [
    "1940 1940 7 15 0 1 S", "1940 1940 10 1 0 0 -", "1941 1941 4 15 0 1 S",
    "1941 1941 9 16 0 0 -", "1942 1944 4 1 0 1 S", "1942 1942 10 27 0 0 -",
    "1943 1945 11 1 0 0 -", "1945 1945 4 16 0 1 S", "1957 1957 5 10 0 1 S",
    "1957 1958 10 1 0 0 -", "1958 1958 5 1 0 1 S", "1959 1981 5 1 1 1 S",
    "1959 1965 9 30 3 0 -", "1966 1994 10 1 3 0 -", "1982 1982 7 25 1 1 S",
    "1983 1983 7 12 1 1 S", "1984 1988 5 1 1 1 S", "1989 1989 5 6 1 1 S", "1990 1994 5 1 1 1 S",
    "1995 2010 4 last-Fri 0s 1 S", "1995 2005 9 last-Thu 24 0 -", "2006 2006 9 21 24 0 -",
    "2007 2007 9 Thu>=1 24 0 -", "2008 2008 8 last-Thu 24 0 -", "2009 2009 8 20 24 0 -",
    "2010 2010 8 10 24 0 -", "2010 2010 9 9 24 1 S", "2010 2010 9 last-Thu 24 0 -",
    "2014 2014 5 15 24 1 S", "2014 2014 6 26 24 0 -", "2014 2014 7 31 24 1 S",
    "2014 2014 9 last-Thu 24 0 -", "2023 - 4 last-Fri 0 1 S", "2023 - 10 last-Thu 24 0 -"]),
  ("KG", [
    "1992 1996 4 Sun>=7 0s 1 -", "1992 1996 9 last-Sun 0 0 -", "1997 2005 3 last-Sun 2:30 1 -",
    "1997 2004 10 last-Sun 2:30 0 -"]),
  ("KR", [
    "1948 1948 6 1 0 1 D", "1948 1948 9 12 24 0 S", "1949 1949 4 3 0 1 D",
    "1949 1951 9 Sat>=7 24 0 S", "1950 1950 4 1 0 1 D", "1951 1951 5 6 0 1 D",
    "1955 1955 5 5 0 1 D", "1955 1955 9 8 24 0 S", "1956 1956 5 20 0 1 D",
    "1956 1956 9 29 24 0 S", "1957 1960 5 Sun>=1 0 1 D", "1957 1960 9 Sat>=17 24 0 S",
    "1987 1988 5 Sun>=8 2 1 D", "1987 1988 10 Sun>=8 3 0 S"]),
  ("L", [
    "1951 1951 10 14 2 1 S", "1952 1952 1 1 0 0 -", "1953 1953 10 9 2 1 S",
    "1954 1954 1 1 0 0 -", "1955 1955 9 30 0 1 S", "1956 1956 1 1 0 0 -", "1982 1984 4 1 0 1 S",
    "1982 1985 10 1 0 0 -", "1985 1985 4 6 0 1 S", "1986 1986 4 4 0 1 S",
    "1986 1986 10 3 0 0 -", "1987 1989 4 1 0 1 S", "1987 1989 10 1 0 0 -",
    "1997 1997 4 4 0 1 S", "1997 1997 10 4 0 0 -", "2013 2013 3 last-Fri 1 1 S",
    "2013 2013 10 last-Fri 2 0 -"]),
  ("LH", [
    "1981 1984 10 last-Sun 2 1 -", "1982 1985 3 Sun>=1 2 0 -", "1985 1985 10 last-Sun 2 0:30 -",
    "1986 1989 3 Sun>=15 2 0 -", "1986 1986 10 19 2 0:30 -", "1987 1999 10 last-Sun 2 0:30 -",
    "1990 1995 3 Sun>=1 2 0 -", "1996 2005 3 last-Sun 2 0 -", "2000 2000 8 last-Sun 2 0:30 -",
    "2001 2007 10 last-Sun 2 0:30 -", "2006 2006 4 Sun>=1 2 0 -", "2007 2007 3 last-Sun 2 0 -",
    "2008 - 4 Sun>=1 2 0 -", "2008 - 10 Sun>=1 2 0:30 -"]),
  ("LV", ["1989 1996 3 last-Sun 2s 1 S", "1989 1996 9 last-Sun 2s 0 -"]),
  ("M", [
    "1939 1939 9 12 0 1 -", "1939 1939 11 19 0 0 -", "1940 1940 2 25 0 1 -",
    "1945 1945 11 18 0 0 -", "1950 1950 6 11 0 1 -", "1950 1950 10 29 0 0 -",
    "1967 1967 6 3 12 1 -", "1967 1967 10 1 0 0 -", "1974 1974 6 24 0 1 -",
    "1974 1974 9 1 0 0 -", "1976 1977 5 1 0 1 -", "1976 1976 8 1 0 0 -", "1977 1977 9 28 0 0 -",
    "1978 1978 6 1 0 1 -", "1978 1978 8 4 0 0 -", "2008 2008 6 1 0 1 -", "2008 2008 9 1 0 0 -",
    "2009 2009 6 1 0 1 -", "2009 2009 8 21 0 0 -", "2010 2010 5 2 0 1 -", "2010 2010 8 8 0 0 -",
    "2011 2011 4 3 0 1 -", "2011 2011 7 31 0 0 -", "2012 2013 4 last-Sun 2 1 -",
    "2012 2012 7 20 3 0 -", "2012 2012 8 20 2 1 -", "2012 2012 9 30 3 0 -",
    "2013 2013 7 7 3 0 -", "2013 2013 8 10 2 1 -", "2013 2017 10 last-Sun 3 0 -",
    "2014 2018 3 last-Sun 2 1 -", "2014 2014 6 28 3 0 -", "2014 2014 8 2 2 1 -",
    "2015 2015 6 14 3 0 -", "2015 2015 7 19 2 1 -", "2016 2016 6 5 3 0 -",
    "2016 2016 7 10 2 1 -", "2017 2017 5 21 3 0 -", "2017 2017 7 2 2 1 -",
    "2018 2018 5 13 3 0 -", "2018 2018 6 17 2 1 -", "2019 2019 5 5 3 0 -",
    "2019 2019 6 9 2 1 -", "2020 2020 4 19 3 0 -", "2020 2020 5 31 2 1 -",
    "2021 2021 4 11 3 0 -", "2021 2021 5 16 2 1 -", "2022 2022 3 27 3 0 -",
    "2022 2022 5 8 2 1 -", "2023 2023 3 19 3 0 -", "2023 2023 4 23 2 1 -",
    "2024 2024 3 10 3 0 -", "2024 2024 4 14 2 1 -", "2025 2025 2 23 3 0 -",
    "2025 2025 4 6 2 1 -", "2026 2026 2 15 3 0 -", "2026 2026 3 22 2 1 -",
    "2027 2027 2 7 3 0 -", "2027 2027 3 14 2 1 -", "2028 2028 1 23 3 0 -",
    "2028 2028 3 5 2 1 -", "2029 2029 1 14 3 0 -", "2029 2029 2 18 2 1 -",
    "2029 2029 12 30 3 0 -", "2030 2030 2 10 2 1 -", "2030 2030 12 22 3 0 -",
    "2031 2031 1 26 2 1 -", "2031 2031 12 14 3 0 -", "2032 2032 1 18 2 1 -",
    "2032 2032 11 28 3 0 -", "2033 2033 1 9 2 1 -", "2033 2033 11 20 3 0 -",
    "2033 2033 12 25 2 1 -", "2034 2034 11 5 3 0 -", "2034 2034 12 17 2 1 -",
    "2035 2035 10 28 3 0 -", "2035 2035 12 9 2 1 -", "2036 2036 10 19 3 0 -",
    "2036 2036 11 23 2 1 -", "2037 2037 10 4 3 0 -", "2037 2037 11 15 2 1 -",
    "2038 2038 9 26 3 0 -", "2038 2038 10 31 2 1 -", "2039 2039 9 18 3 0 -",
    "2039 2039 10 23 2 1 -", "2040 2040 9 2 3 0 -", "2040 2040 10 14 2 1 -",
    "2041 2041 8 25 3 0 -", "2041 2041 9 29 2 1 -", "2042 2042 8 10 3 0 -",
    "2042 2042 9 21 2 1 -", "2043 2043 8 2 3 0 -", "2043 2043 9 13 2 1 -",
    "2044 2044 7 24 3 0 -", "2044 2044 8 28 2 1 -", "2045 2045 7 9 3 0 -",
    "2045 2045 8 20 2 1 -", "2046 2046 7 1 3 0 -", "2046 2046 8 5 2 1 -",
    "2047 2047 6 23 3 0 -", "2047 2047 7 28 2 1 -", "2048 2048 6 7 3 0 -",
    "2048 2048 7 19 2 1 -", "2049 2049 5 30 3 0 -", "2049 2049 7 4 2 1 -",
    "2050 2050 5 15 3 0 -", "2050 2050 6 26 2 1 -", "2051 2051 5 7 3 0 -",
    "2051 2051 6 18 2 1 -", "2052 2052 4 28 3 0 -", "2052 2052 6 2 2 1 -",
    "2053 2053 4 13 3 0 -", "2053 2053 5 25 2 1 -", "2054 2054 4 5 3 0 -",
    "2054 2054 5 10 2 1 -", "2055 2055 3 28 3 0 -", "2055 2055 5 2 2 1 -",
    "2056 2056 3 12 3 0 -", "2056 2056 4 23 2 1 -", "2057 2057 3 4 3 0 -",
    "2057 2057 4 8 2 1 -", "2058 2058 2 17 3 0 -", "2058 2058 3 31 2 1 -",
    "2059 2059 2 9 3 0 -", "2059 2059 3 23 2 1 -", "2060 2060 2 1 3 0 -", "2060 2060 3 7 2 1 -",
    "2061 2061 1 16 3 0 -", "2061 2061 2 27 2 1 -", "2062 2062 1 8 3 0 -",
    "2062 2062 2 12 2 1 -", "2062 2062 12 31 3 0 -", "2063 2063 2 4 2 1 -",
    "2063 2063 12 16 3 0 -", "2064 2064 1 27 2 1 -", "2064 2064 12 7 3 0 -",
    "2065 2065 1 11 2 1 -", "2065 2065 11 22 3 0 -", "2066 2066 1 3 2 1 -",
    "2066 2066 11 14 3 0 -", "2066 2066 12 26 2 1 -", "2067 2067 11 6 3 0 -",
    "2067 2067 12 11 2 1 -", "2068 2068 10 21 3 0 -", "2068 2068 12 2 2 1 -",
    "2069 2069 10 13 3 0 -", "2069 2069 11 17 2 1 -", "2070 2070 10 5 3 0 -",
    "2070 2070 11 9 2 1 -", "2071 2071 9 20 3 0 -", "2071 2071 11 1 2 1 -",
    "2072 2072 9 11 3 0 -", "2072 2072 10 16 2 1 -", "2073 2073 8 27 3 0 -",
    "2073 2073 10 8 2 1 -", "2074 2074 8 19 3 0 -", "2074 2074 9 30 2 1 -",
    "2075 2075 8 11 3 0 -", "2075 2075 9 15 2 1 -", "2076 2076 7 26 3 0 -",
    "2076 2076 9 6 2 1 -", "2077 2077 7 18 3 0 -", "2077 2077 8 22 2 1 -",
    "2078 2078 7 10 3 0 -", "2078 2078 8 14 2 1 -", "2079 2079 6 25 3 0 -",
    "2079 2079 8 6 2 1 -", "2080 2080 6 16 3 0 -", "2080 2080 7 21 2 1 -",
    "2081 2081 6 1 3 0 -", "2081 2081 7 13 2 1 -", "2082 2082 5 24 3 0 -",
    "2082 2082 6 28 2 1 -", "2083 2083 5 16 3 0 -", "2083 2083 6 20 2 1 -",
    "2084 2084 4 30 3 0 -", "2084 2084 6 11 2 1 -", "2085 2085 4 22 3 0 -",
    "2085 2085 5 27 2 1 -", "2086 2086 4 14 3 0 -", "2086 2086 5 19 2 1 -",
    "2087 2087 3 30 3 0 -", "2087 2087 5 11 2 1 -"]),
  ("MD", ["1997 - 3 last-Sun 2 1 S", "1997 - 10 last-Sun 3 0 -"]),
  ("MT", [
    "1973 1973 3 31 0s 1 S", "1973 1973 9 29 0s 0 -", "1974 1974 4 21 0s 1 S",
    "1974 1974 9 16 0s 0 -", "1975 1979 4 Sun>=15 2 1 S", "1975 1980 9 Sun>=15 2 0 -",
    "1980 1980 3 31 2 1 S"]),
  ("MU", [
    "1982 1982 10 10 0 1 -", "1983 1983 3 21 0 0 -", "2008 2008 10 last-Sun 2 1 -",
    "2009 2009 3 last-Sun 2 0 -"]),
  ("Ma", [
    "1951 1951 4 last-Sun 2 1 D", "1951 1951 9 last-Sun 2 0 S", "1954 1960 4 last-Sun 2 1 D",
    "1954 1960 9 last-Sun 2 0 S"]),
  ("Me", [
    "1946 1946 4 last-Sun 2 1 D", "1946 1946 9 last-Sun 2 0 S", "1966 1966 4 last-Sun 2 1 D",
    "1966 1966 10 last-Sun 2 0 S"]),
  ("NA", ["1994 1994 3 21 0 0 WAT", "1994 2017 9 Sun>=1 2 1 CAT", "1995 2017 4 Sun>=1 2 0 WAT"]),
  ("NB", ["1935 1941 9 14 0 0:20 -", "1935 1941 12 14 0 0 -"]),
  ("NC", [
    "1977 1978 12 Sun>=1 0 1 -", "1978 1979 2 27 0 0 -", "1996 1996 12 1 2s 1 -",
    "1997 1997 3 2 2s 0 -"]),
  ("NI", [
    "1979 1980 3 Sun>=16 0 1 D", "1979 1980 6 Mon>=23 0 0 S", "2005 2005 4 10 0 1 D",
    "2005 2005 10 Sun>=1 0 0 S", "2006 2006 4 30 2 1 D", "2006 2006 10 Sun>=1 1 0 S"]),
  ("NY", [
    "1920 1920 3 last-Sun 2 1 D", "1920 1920 10 last-Sun 2 0 S", "1921 1966 4 last-Sun 2 1 D",
    "1921 1954 9 last-Sun 2 0 S", "1955 1966 10 last-Sun 2 0 S"]),
  ("NZ", [
    "1927 1927 11 6 2 1 S", "1928 1928 3 4 2 0 M", "1928 1933 10 Sun>=8 2 0:30 S",
    "1929 1933 3 Sun>=15 2 0 M", "1934 1940 4 last-Sun 2 0 M", "1934 1940 9 last-Sun 2 0:30 S",
    "1946 1946 1 1 0 0 S", "1974 1974 11 Sun>=1 2s 1 D", "1975 1975 2 last-Sun 2s 0 S",
    "1975 1988 10 last-Sun 2s 1 D", "1976 1989 3 Sun>=1 2s 0 S", "1989 1989 10 Sun>=8 2s 1 D",
    "1990 2006 10 Sun>=1 2s 1 D", "1990 2007 3 Sun>=15 2s 0 S", "2007 - 9 last-Sun 2s 1 D",
    "2008 - 4 Sun>=1 2s 0 S"]),
  ("O", [
    "1918 1919 9 16 2s 0 -", "1919 1919 4 15 2s 1 S", "1944 1944 4 3 2s 1 S",
    "1944 1944 10 4 2 0 -", "1945 1945 4 29 0 1 S", "1945 1945 11 1 0 0 -",
    "1946 1946 4 14 0s 1 S", "1946 1946 10 7 2s 0 -", "1947 1947 5 4 2s 1 S",
    "1947 1949 10 Sun>=1 2s 0 -", "1948 1948 4 18 2s 1 S", "1949 1949 4 10 2s 1 S",
    "1957 1957 6 2 1s 1 S", "1957 1958 9 last-Sun 1s 0 -", "1958 1958 3 30 1s 1 S",
    "1959 1959 5 31 1s 1 S", "1959 1961 10 Sun>=1 1s 0 -", "1960 1960 4 3 1s 1 S",
    "1961 1964 5 last-Sun 1s 1 S", "1962 1964 9 last-Sun 1s 0 -"]),
  ("P", [
    "1999 2005 4 Fri>=15 0 1 S", "1999 2003 10 Fri>=15 0 0 -", "2004 2004 10 1 1 0 -",
    "2005 2005 10 4 2 0 -", "2006 2007 4 1 0 1 S", "2006 2006 9 22 0 0 -",
    "2007 2007 9 13 2 0 -", "2008 2009 3 last-Fri 0 1 S", "2008 2008 9 1 0 0 -",
    "2009 2009 9 4 1 0 -", "2010 2010 3 26 0 1 S", "2010 2010 8 11 0 0 -",
    "2011 2011 4 1 0:1 1 S", "2011 2011 8 1 0 0 -", "2011 2011 8 30 0 1 S",
    "2011 2011 9 30 0 0 -", "2012 2014 3 last-Thu 24 1 S", "2012 2012 9 21 1 0 -",
    "2013 2013 9 27 0 0 -", "2014 2014 10 24 0 0 -", "2015 2015 3 28 0 1 S",
    "2015 2015 10 23 1 0 -", "2016 2018 3 Sat<=30 1 1 S", "2016 2018 10 Sat<=30 1 0 -",
    "2019 2019 3 29 0 1 S", "2019 2019 10 Sat<=30 0 0 -", "2020 2021 3 Sat<=30 0 1 S",
    "2020 2020 10 24 1 0 -", "2021 2021 10 29 1 0 -", "2022 2022 3 27 0 1 S",
    "2022 2035 10 Sat<=30 2 0 -", "2023 2023 4 29 2 1 S", "2024 2024 4 20 2 1 S",
    "2025 2025 4 12 2 1 S", "2026 2054 3 Sat<=30 2 1 S", "2036 2036 10 18 2 0 -",
    "2037 2037 10 10 2 0 -", "2038 2038 9 25 2 0 -", "2039 2039 9 17 2 0 -",
    "2040 2040 9 1 2 0 -", "2040 2040 10 20 2 1 S", "2040 2067 10 Sat<=30 2 0 -",
    "2041 2041 8 24 2 0 -", "2041 2041 10 5 2 1 S", "2042 2042 8 16 2 0 -",
    "2042 2042 9 27 2 1 S", "2043 2043 8 1 2 0 -", "2043 2043 9 19 2 1 S",
    "2044 2044 7 23 2 0 -", "2044 2044 9 3 2 1 S", "2045 2045 7 15 2 0 -",
    "2045 2045 8 26 2 1 S", "2046 2046 6 30 2 0 -", "2046 2046 8 18 2 1 S",
    "2047 2047 6 22 2 0 -", "2047 2047 8 3 2 1 S", "2048 2048 6 6 2 0 -",
    "2048 2048 7 25 2 1 S", "2049 2049 5 29 2 0 -", "2049 2049 7 10 2 1 S",
    "2050 2050 5 21 2 0 -", "2050 2050 7 2 2 1 S", "2051 2051 5 6 2 0 -",
    "2051 2051 6 24 2 1 S", "2052 2052 4 27 2 0 -", "2052 2052 6 8 2 1 S",
    "2053 2053 4 12 2 0 -", "2053 2053 5 31 2 1 S", "2054 2054 4 4 2 0 -",
    "2054 2054 5 23 2 1 S", "2055 2055 5 8 2 1 S", "2056 2056 4 29 2 1 S",
    "2057 2057 4 14 2 1 S", "2058 2058 4 6 2 1 S", "2059 - 3 Sat<=30 2 1 S",
    "2068 2068 10 20 2 0 -", "2069 2069 10 12 2 0 -", "2070 2070 10 4 2 0 -",
    "2071 2071 9 19 2 0 -", "2072 2072 9 10 2 0 -", "2072 2072 10 22 2 1 S",
    "2072 - 10 Sat<=30 2 0 -", "2073 2073 9 2 2 0 -", "2073 2073 10 14 2 1 S",
    "2074 2074 8 18 2 0 -", "2074 2074 10 6 2 1 S", "2075 2075 8 10 2 0 -",
    "2075 2075 9 21 2 1 S", "2076 2076 7 25 2 0 -", "2076 2076 9 12 2 1 S",
    "2077 2077 7 17 2 0 -", "2077 2077 9 4 2 1 S", "2078 2078 7 9 2 0 -",
    "2078 2078 8 20 2 1 S", "2079 2079 6 24 2 0 -", "2079 2079 8 12 2 1 S",
    "2080 2080 6 15 2 0 -", "2080 2080 7 27 2 1 S", "2081 2081 6 7 2 0 -",
    "2081 2081 7 19 2 1 S", "2082 2082 5 23 2 0 -", "2082 2082 7 11 2 1 S",
    "2083 2083 5 15 2 0 -", "2083 2083 6 26 2 1 S", "2084 2084 4 29 2 0 -",
    "2084 2084 6 17 2 1 S", "2085 2085 4 21 2 0 -", "2085 2085 6 9 2 1 S",
    "2086 2086 4 13 2 0 -", "2086 2086 5 25 2 1 S"]),
  ("PE", [
    "1938 1938 1 1 0 1 -", "1938 1938 4 1 0 0 -", "1938 1939 9 last-Sun 0 1 -",
    "1939 1940 3 Sun>=24 0 0 -", "1986 1987 1 1 0 1 -", "1986 1987 4 1 0 0 -",
    "1990 1990 1 1 0 1 -", "1990 1990 4 1 0 0 -", "1994 1994 1 1 0 1 -", "1994 1994 4 1 0 0 -"]),
  ("PH", [
    "1936 1936 10 31 24 1 D", "1937 1937 1 15 24 0 S", "1941 1941 12 15 24 1 D",
    "1945 1945 11 30 24 0 S", "1954 1954 4 11 24 1 D", "1954 1954 6 4 24 0 S",
    "1977 1977 3 27 24 1 D", "1977 1977 9 21 24 0 S", "1990 1990 5 21 0 1 D",
    "1990 1990 7 28 24 0 S"]),
  ("PK", [
    "2002 2002 4 Sun>=2 0 1 S", "2002 2002 10 Sun>=2 0 0 -", "2008 2008 6 1 0 1 S",
    "2008 2009 11 1 0 0 -", "2009 2009 4 15 0 1 S"]),
  ("Pe", [
    "1955 1955 5 1 0 1 D", "1955 1960 9 last-Sun 2 0 S", "1956 1963 4 last-Sun 2 1 D",
    "1961 1963 10 last-Sun 2 0 S"]),
  ("Pi", [
    "1955 1955 5 1 0 1 D", "1955 1960 9 last-Sun 2 0 S", "1956 1964 4 last-Sun 2 1 D",
    "1961 1964 10 last-Sun 2 0 S"]),
  ("Pu", [
    "1946 1960 4 last-Sun 2 1 D", "1946 1954 9 last-Sun 2 0 S", "1955 1956 10 last-Sun 2 0 S",
    "1957 1960 9 last-Sun 2 0 S"]),
  ("Q", [
    "1928 1928 6 10 0 1 D", "1928 1928 10 10 0 0 S", "1940 1942 6 Sun>=1 0 1 D",
    "1940 1942 9 Sun>=1 0 0 S", "1945 1946 6 Sun>=1 0 1 D", "1945 1946 9 Sun>=1 0 0 S",
    "1965 1965 6 1 0 1 D", "1965 1965 9 30 0 0 S", "1966 1966 5 29 0 1 D",
    "1966 1966 10 2 0 0 S", "1967 1967 4 8 0 1 D", "1967 1968 9 Sun>=8 0 0 S",
    "1968 1968 4 14 0 1 D", "1969 1977 4 last-Sun 0 1 D", "1969 1971 10 last-Sun 0 0 S",
    "1972 1974 10 8 0 0 S", "1975 1977 10 last-Sun 0 0 S", "1978 1978 5 7 0 1 D",
    "1978 1990 10 Sun>=8 0 0 S", "1979 1980 3 Sun>=15 0 1 D", "1981 1985 5 Sun>=5 0 1 D",
    "1986 1989 3 Sun>=14 0 1 D", "1990 1997 4 Sun>=1 0 1 D", "1991 1995 10 Sun>=8 0s 0 S",
    "1996 1996 10 6 0s 0 S", "1997 1997 10 12 0s 0 S", "1998 1999 3 last-Sun 0s 1 D",
    "1998 2003 10 last-Sun 0s 0 S", "2000 2003 4 Sun>=1 0s 1 D", "2004 2004 3 last-Sun 0s 1 D",
    "2006 2010 10 last-Sun 0s 0 S", "2007 2007 3 Sun>=8 0s 1 D", "2008 2008 3 Sun>=15 0s 1 D",
    "2009 2010 3 Sun>=8 0s 1 D", "2011 2011 3 Sun>=15 0s 1 D", "2011 2011 11 13 0s 0 S",
    "2012 2012 4 1 0s 1 D", "2012 - 11 Sun>=1 0s 0 S", "2013 - 3 Sun>=8 0s 1 D"]),
  ("R", [
    "1917 1917 7 1 23 1 MST", "1917 1917 12 28 0 0 MMT", "1918 1918 5 31 22 2 MDST",
    "1918 1918 9 16 1 1 MST", "1919 1919 5 31 23 2 MDST", "1919 1919 7 1 0u 1 MSD",
    "1919 1919 8 16 0 0 MSK", "1921 1921 2 14 23 1 MSD", "1921 1921 3 20 23 2 +05",
    "1921 1921 9 1 0 1 MSD", "1921 1921 10 1 0 0 -", "1981 1984 4 1 0 1 S",
    "1981 1983 10 1 0 0 -", "1984 1995 9 last-Sun 2s 0 -", "1985 2010 3 last-Sun 2s 1 S",
    "1996 2010 10 last-Sun 2s 0 -"]),
  ("S", [
    "1920 1923 4 Sun>=15 2 1 S", "1920 1923 10 Sun>=1 2 0 -", "1962 1962 4 29 2 1 S",
    "1962 1962 10 1 2 0 -", "1963 1965 5 1 2 1 S", "1963 1963 9 30 2 0 -",
    "1964 1964 10 1 2 0 -", "1965 1965 9 30 2 0 -", "1966 1966 4 24 2 1 S",
    "1966 1976 10 1 2 0 -", "1967 1978 5 1 2 1 S", "1977 1978 9 1 2 0 -", "1983 1984 4 9 2 1 S",
    "1983 1984 10 1 2 0 -", "1986 1986 2 16 2 1 S", "1986 1986 10 9 2 0 -",
    "1987 1987 3 1 2 1 S", "1987 1988 10 31 2 0 -", "1988 1988 3 15 2 1 S",
    "1989 1989 3 31 2 1 S", "1989 1989 10 1 2 0 -", "1990 1990 4 1 2 1 S",
    "1990 1990 9 30 2 0 -", "1991 1991 4 1 0 1 S", "1991 1992 10 1 0 0 -",
    "1992 1992 4 8 0 1 S", "1993 1993 3 26 0 1 S", "1993 1993 9 25 0 0 -",
    "1994 1996 4 1 0 1 S", "1994 2005 10 1 0 0 -", "1997 1998 3 last-Mon 0 1 S",
    "1999 2006 4 1 0 1 S", "2006 2006 9 22 0 0 -", "2007 2007 3 last-Fri 0 1 S",
    "2007 2007 11 Fri>=1 0 0 -", "2008 2008 4 Fri>=1 0 1 S", "2008 2008 11 1 0 0 -",
    "2009 2009 3 last-Fri 0 1 S", "2010 2011 4 Fri>=1 0 1 S", "2012 2022 3 last-Fri 0 1 S",
    "2009 2022 10 last-Fri 0 0 -"]),
  ("SA", ["1942 1943 9 Sun>=15 2 1 -", "1943 1944 3 Sun>=15 2 0 -"]),
  ("SD", [
    "1970 1970 5 1 0 1 S", "1970 1985 10 15 0 0 -", "1971 1971 4 30 0 1 S",
    "1972 1985 4 last-Sun 0 1 S"]),
  ("SV", ["1987 1988 5 Sun>=1 0 1 D", "1987 1988 9 last-Sun 0 0 S"]),
  ("Sa", ["2008 2009 3 Sun>=8 0 0 -", "2007 2008 10 Sun>=8 0 1 -"]),
  ("Sh", [
    "1919 1919 4 12 24 1 D", "1919 1919 9 30 24 0 S", "1940 1940 6 1 0 1 D",
    "1940 1940 10 12 24 0 S", "1941 1941 3 15 0 1 D", "1941 1941 11 1 24 0 S",
    "1942 1942 1 31 0 1 D", "1945 1945 9 1 24 0 S", "1946 1946 5 15 0 1 D",
    "1946 1946 9 30 24 0 S", "1947 1947 4 15 0 1 D", "1947 1947 10 31 24 0 S",
    "1948 1949 5 1 0 1 D", "1948 1949 9 30 24 0 S"]),
  ("So", ["1945 1945 5 24 2 2 M", "1945 1945 9 24 3 1 S", "1945 1945 11 18 2s 0 -"]),
  ("Sp", [
    "1967 1967 6 3 12 1 S", "1967 1967 10 1 0 0 -", "1974 1974 6 24 0 1 S",
    "1974 1974 9 1 0 0 -", "1976 1977 5 1 0 1 S", "1976 1976 8 1 0 0 -", "1977 1977 9 28 0 0 -",
    "1978 1978 6 1 0 1 S", "1978 1978 8 4 0 0 -"]),
  ("St", [
    "1947 1961 4 last-Sun 2 1 D", "1947 1954 9 last-Sun 2 0 S", "1955 1956 10 last-Sun 2 0 S",
    "1957 1958 9 last-Sun 2 0 S", "1959 1961 10 last-Sun 2 0 S"]),
  ("Sw", [
    "1957 1957 4 last-Sun 2 1 D", "1957 1957 10 last-Sun 2 0 S", "1959 1961 4 last-Sun 2 1 D",
    "1959 1959 10 last-Sun 2 0 S", "1960 1961 9 last-Sun 2 0 S"]),
  ("T", [
    "1916 1916 5 1 0 1 S", "1916 1916 10 1 0 0 -", "1920 1920 3 28 0 1 S",
    "1920 1920 10 25 0 0 -", "1921 1921 4 3 0 1 S", "1921 1921 10 3 0 0 -",
    "1922 1922 3 26 0 1 S", "1922 1922 10 8 0 0 -", "1924 1924 5 13 0 1 S",
    "1924 1925 10 1 0 0 -", "1925 1925 5 1 0 1 S", "1940 1940 7 1 0 1 S",
    "1940 1940 10 6 0 0 -", "1940 1940 12 1 0 1 S", "1941 1941 9 21 0 0 -",
    "1942 1942 4 1 0 1 S", "1945 1945 10 8 0 0 -", "1946 1946 6 1 0 1 S",
    "1946 1946 10 1 0 0 -", "1947 1948 4 Sun>=16 0 1 S", "1947 1951 10 Sun>=2 0 0 -",
    "1949 1949 4 10 0 1 S", "1950 1950 4 16 0 1 S", "1951 1951 4 22 0 1 S",
    "1962 1962 7 15 0 1 S", "1963 1963 10 30 0 0 -", "1964 1964 5 15 0 1 S",
    "1964 1964 10 1 0 0 -", "1973 1973 6 3 1 1 S", "1973 1976 10 Sun>=31 2 0 -",
    "1974 1974 3 31 2 1 S", "1975 1975 3 22 2 1 S", "1976 1976 3 21 2 1 S",
    "1977 1978 4 Sun>=1 2 1 S", "1977 1978 10 Sun>=15 2 0 -", "1978 1978 6 29 0 0 -",
    "1983 1983 7 31 2 1 S", "1983 1983 10 2 2 0 -", "1985 1985 4 20 1s 1 S",
    "1985 1985 9 28 1s 0 -", "1986 1993 3 last-Sun 1s 1 S", "1986 1995 9 last-Sun 1s 0 -",
    "1994 1994 3 20 1s 1 S", "1995 2006 3 last-Sun 1s 1 S", "1996 2006 10 last-Sun 1s 0 -"]),
  ("TO", [
    "1999 1999 10 7 2s 1 -", "2000 2000 3 19 2s 0 -", "2000 2001 11 Sun>=1 2 1 -",
    "2001 2002 1 last-Sun 2 0 -", "2016 2016 11 Sun>=1 2 1 -", "2017 2017 1 Sun>=15 3 0 -"]),
  ("Th", [
    "1991 1992 3 last-Sun 2 1 D", "1991 1992 9 last-Sun 2 0 S", "1993 2006 4 Sun>=1 2 1 D",
    "1993 2006 10 last-Sun 2 0 S", "2007 - 3 Sun>=8 2 1 D", "2007 - 11 Sun>=1 2 0 S"]),
  ("Tr", ["2005 - 3 last-Sun 1u 2 +02", "2004 - 10 last-Sun 1u 0 +00"]),
  ("U", [
    "1923 1925 10 1 0 0:30 -", "1924 1926 4 1 0 0 -", "1933 1938 10 last-Sun 0 0:30 -",
    "1934 1941 3 last-Sat 24 0 -", "1939 1939 10 1 0 0:30 -", "1940 1940 10 27 0 0:30 -",
    "1941 1941 8 1 0 0:30 -", "1942 1942 12 14 0 0:30 -", "1943 1943 3 14 0 0 -",
    "1959 1959 5 24 0 0:30 -", "1959 1959 11 15 0 0 -", "1960 1960 1 17 0 1 -",
    "1960 1960 3 6 0 0 -", "1965 1965 4 4 0 1 -", "1965 1965 9 26 0 0 -",
    "1968 1968 5 27 0 0:30 -", "1968 1968 12 1 0 0 -", "1970 1970 4 25 0 1 -",
    "1970 1970 6 14 0 0 -", "1972 1972 4 23 0 1 -", "1972 1972 7 16 0 0 -",
    "1974 1974 1 13 0 1:30 -", "1974 1974 3 10 0 0:30 -", "1974 1974 9 1 0 0 -",
    "1974 1974 12 22 0 1 -", "1975 1975 3 30 0 0 -", "1976 1976 12 19 0 1 -",
    "1977 1977 3 6 0 0 -", "1977 1977 12 4 0 1 -", "1978 1979 3 Sun>=1 0 0 -",
    "1978 1978 12 17 0 1 -", "1979 1979 4 29 0 1 -", "1980 1980 3 16 0 0 -",
    "1987 1987 12 14 0 1 -", "1988 1988 2 28 0 0 -", "1988 1988 12 11 0 1 -",
    "1989 1989 3 5 0 0 -", "1989 1989 10 29 0 1 -", "1990 1990 2 25 0 0 -",
    "1990 1991 10 Sun>=21 0 1 -", "1991 1992 3 Sun>=1 0 0 -", "1992 1992 10 18 0 1 -",
    "1993 1993 2 28 0 0 -", "2004 2004 9 19 0 1 -", "2005 2005 3 27 2 0 -",
    "2005 2005 10 9 2 1 -", "2006 2015 3 Sun>=8 2 0 -", "2006 2014 10 Sun>=1 2 1 -"]),
  ("V", [
    "1946 1946 4 last-Sun 2 1 D", "1946 1946 9 last-Sun 2 0 S", "1953 1954 4 last-Sun 2 1 D",
    "1953 1959 9 last-Sun 2 0 S", "1955 1955 5 1 0 1 D", "1956 1963 4 last-Sun 2 1 D",
    "1960 1960 10 last-Sun 2 0 S", "1961 1961 9 last-Sun 2 0 S", "1962 1963 10 last-Sun 2 0 S"]),
  ("VU", [
    "1973 1973 12 22 12u 1 -", "1974 1974 3 30 12u 0 -", "1983 1991 9 Sat>=22 24 1 -",
    "1984 1991 3 Sat>=22 24 0 -", "1992 1993 1 Sat>=22 24 0 -", "1992 1992 10 Sat>=22 24 1 -"]),
  ("Va", [
    "1918 1918 4 14 2 1 D", "1918 1918 10 27 2 0 S", "1942 1942 2 9 2 1 W",
    "1945 1945 8 14 23u 1 P", "1945 1945 9 30 2 0 S", "1946 1986 4 last-Sun 2 1 D",
    "1946 1946 9 29 2 0 S", "1947 1961 9 last-Sun 2 0 S", "1962 2006 10 last-Sun 2 0 S"]),
  ("W", [
    "1916 1916 4 23 0 1 D", "1916 1916 9 17 0 0 S", "1918 1918 4 14 2 1 D",
    "1918 1918 10 27 2 0 S", "1937 1937 5 16 2 1 D", "1937 1937 9 26 2 0 S",
    "1942 1942 2 9 2 1 W", "1945 1945 8 14 23u 1 P", "1945 1945 9 last-Sun 2 0 S",
    "1946 1946 5 12 2 1 D", "1946 1946 10 13 2 0 S", "1947 1949 4 last-Sun 2 1 D",
    "1947 1949 9 last-Sun 2 0 S", "1950 1950 5 1 2 1 D", "1950 1950 9 30 2 0 S",
    "1951 1960 4 last-Sun 2 1 D", "1951 1958 9 last-Sun 2 0 S", "1959 1959 10 last-Sun 2 0 S",
    "1960 1960 9 last-Sun 2 0 S", "1963 1963 4 last-Sun 2 1 D", "1963 1963 9 22 2 0 S",
    "1966 1986 4 last-Sun 2s 1 D", "1966 2005 10 last-Sun 2s 0 S", "1987 2005 4 Sun>=1 2s 1 D"]),
  ("W-", [
    "1977 1980 4 Sun>=1 1s 1 S", "1977 1977 9 last-Sun 1s 0 -", "1978 1978 10 1 1s 0 -",
    "1979 1995 9 last-Sun 1s 0 -", "1981 - 3 last-Sun 1s 1 S", "1996 - 10 last-Sun 1s 0 -"]),
  ("WS", [
    "2010 2010 9 last-Sun 0 1 -", "2011 2011 4 Sat>=1 4 0 -", "2011 2011 9 last-Sat 3 1 -",
    "2012 2021 4 Sun>=1 4 0 -", "2012 2020 9 last-Sun 3 1 -"]),
  ("X", [
    "1983 1984 4 1 0 1 -", "1983 1983 10 1 0 0 -", "1985 1998 3 last-Sun 0 1 -",
    "1984 1998 9 last-Sun 0 0 -", "2001 2001 4 last-Sat 2 1 -", "2001 2006 9 last-Sat 2 0 -",
    "2002 2006 3 last-Sat 2 1 -", "2015 2016 3 last-Sat 2 1 -", "2015 2016 9 last-Sat 0 0 -"]),
  ("Y", [
    "1918 1918 4 14 2 1 D", "1918 1918 10 27 2 0 S", "1919 1919 5 25 2 1 D",
    "1919 1919 11 1 0 0 S", "1942 1942 2 9 2 1 W", "1945 1945 8 14 23u 1 P",
    "1945 1945 9 30 2 0 S", "1972 1986 4 last-Sun 2 1 D", "1972 2006 10 last-Sun 2 0 S",
    "1987 2006 4 Sun>=1 2 1 D"]),
  ("Yu", ["1965 1965 4 last-Sun 0 2 DD", "1965 1965 10 last-Sun 2 0 S"]),
  ("Z", [
    "1940 1940 5 31 24u 1 D", "1940 1940 9 30 24u 0 S", "1940 1940 11 16 24u 1 D",
    "1942 1946 10 31 24u 0 S", "1943 1944 3 31 24u 1 D", "1945 1946 4 15 24u 1 D",
    "1948 1948 5 22 24u 2 DD", "1948 1948 8 31 24u 1 D", "1948 1949 10 31 24u 0 S",
    "1949 1949 4 30 24u 1 D", "1950 1950 4 15 24u 1 D", "1950 1950 9 14 24u 0 S",
    "1951 1951 3 31 24u 1 D", "1951 1951 11 10 24u 0 S", "1952 1952 4 19 24u 1 D",
    "1952 1952 10 18 24u 0 S", "1953 1953 4 11 24u 1 D", "1953 1953 9 12 24u 0 S",
    "1954 1954 6 12 24u 1 D", "1954 1954 9 11 24u 0 S", "1955 1955 6 11 24u 1 D",
    "1955 1955 9 10 24u 0 S", "1956 1956 6 2 24u 1 D", "1956 1956 9 29 24u 0 S",
    "1957 1957 4 27 24u 1 D", "1957 1957 9 21 24u 0 S", "1974 1974 7 6 24 1 D",
    "1974 1974 10 12 24 0 S", "1975 1975 4 19 24 1 D", "1975 1975 8 30 24 0 S",
    "1980 1980 8 2 24s 1 D", "1980 1980 9 13 24s 0 S", "1984 1984 5 5 24s 1 D",
    "1984 1984 8 25 24s 0 S", "1985 1985 4 13 24 1 D", "1985 1985 8 31 24 0 S",
    "1986 1986 5 17 24 1 D", "1986 1986 9 6 24 0 S", "1987 1987 4 14 24 1 D",
    "1987 1987 9 12 24 0 S", "1988 1988 4 9 24 1 D", "1988 1988 9 3 24 0 S",
    "1989 1989 4 29 24 1 D", "1989 1989 9 2 24 0 S", "1990 1990 3 24 24 1 D",
    "1990 1990 8 25 24 0 S", "1991 1991 3 23 24 1 D", "1991 1991 8 31 24 0 S",
    "1992 1992 3 28 24 1 D", "1992 1992 9 5 24 0 S", "1993 1993 4 2 0 1 D",
    "1993 1993 9 5 0 0 S", "1994 1994 4 1 0 1 D", "1994 1994 8 28 0 0 S",
    "1995 1995 3 31 0 1 D", "1995 1995 9 3 0 0 S", "1996 1996 3 14 24 1 D",
    "1996 1996 9 15 24 0 S", "1997 1997 3 20 24 1 D", "1997 1997 9 13 24 0 S",
    "1998 1998 3 20 0 1 D", "1998 1998 9 6 0 0 S", "1999 1999 4 2 2 1 D", "1999 1999 9 3 2 0 S",
    "2000 2000 4 14 2 1 D", "2000 2000 10 6 1 0 S", "2001 2001 4 9 1 1 D",
    "2001 2001 9 24 1 0 S", "2002 2002 3 29 1 1 D", "2002 2002 10 7 1 0 S",
    "2003 2003 3 28 1 1 D", "2003 2003 10 3 1 0 S", "2004 2004 4 7 1 1 D",
    "2004 2004 9 22 1 0 S", "2005 2012 4 Fri<=1 2 1 D", "2005 2005 10 9 2 0 S",
    "2006 2006 10 1 2 0 S", "2007 2007 9 16 2 0 S", "2008 2008 10 5 2 0 S",
    "2009 2009 9 27 2 0 S", "2010 2010 9 12 2 0 S", "2011 2011 10 2 2 0 S",
    "2012 2012 9 23 2 0 S", "2013 - 3 Fri>=23 2 1 D", "2013 - 10 last-Sun 2 0 S"]),
  ("_", [
    "1942 1943 4 30 23 1 -", "1942 1942 11 17 23 0 -", "1943 1943 9 30 23 0 S",
    "1946 1946 4 30 23s 1 D", "1946 1946 9 30 23s 0 S", "1947 1947 4 19 23s 1 D",
    "1947 1947 11 30 23s 0 S", "1948 1948 5 2 23s 1 D", "1948 1948 10 31 23s 0 S",
    "1949 1950 4 Sat>=1 23s 1 D", "1949 1950 10 last-Sat 23s 0 S", "1951 1951 3 31 23s 1 D",
    "1951 1951 10 28 23s 0 S", "1952 1953 4 Sat>=1 23s 1 D", "1952 1952 11 1 23s 0 S",
    "1953 1954 10 last-Sat 23s 0 S", "1954 1956 3 Sat>=17 23s 1 D", "1955 1955 11 5 23s 0 S",
    "1956 1964 11 Sun>=1 3:30 0 S", "1957 1964 3 Sun>=18 3:30 1 D",
    "1965 1973 4 Sun>=16 3:30 1 D", "1965 1966 10 Sun>=16 2:30 0 S",
    "1967 1976 10 Sun>=16 3:30 0 S", "1973 1973 12 30 3:30 1 D", "1975 1976 4 Sun>=16 3:30 1 D",
    "1979 1979 5 13 3:30 1 D", "1979 1979 10 Sun>=16 3:30 0 S"]),
  ("a", [
    "1920 1920 4 5 2s 1 S", "1920 1920 9 13 2s 0 -", "1946 1946 4 14 2s 1 S",
    "1946 1946 10 7 2s 0 -", "1947 1948 10 Sun>=1 2s 0 -", "1947 1947 4 6 2s 1 S",
    "1948 1948 4 18 2s 1 S", "1980 1980 4 6 0 1 S", "1980 1980 9 28 0 0 -"]),
  ("b", [
    "1918 1918 3 9 0s 1 S", "1918 1919 10 Sat>=1 23s 0 -", "1919 1919 3 1 23s 1 S",
    "1920 1920 2 14 23s 1 S", "1920 1920 10 23 23s 0 -", "1921 1921 3 14 23s 1 S",
    "1921 1921 10 25 23s 0 -", "1922 1922 3 25 23s 1 S", "1922 1927 10 Sat>=1 23s 0 -",
    "1923 1923 4 21 23s 1 S", "1924 1924 3 29 23s 1 S", "1925 1925 4 4 23s 1 S",
    "1926 1926 4 17 23s 1 S", "1927 1927 4 9 23s 1 S", "1928 1928 4 14 23s 1 S",
    "1928 1938 10 Sun>=2 2s 0 -", "1929 1929 4 21 2s 1 S", "1930 1930 4 13 2s 1 S",
    "1931 1931 4 19 2s 1 S", "1932 1932 4 3 2s 1 S", "1933 1933 3 26 2s 1 S",
    "1934 1934 4 8 2s 1 S", "1935 1935 3 31 2s 1 S", "1936 1936 4 19 2s 1 S",
    "1937 1937 4 4 2s 1 S", "1938 1938 3 27 2s 1 S", "1939 1939 4 16 2s 1 S",
    "1939 1939 11 19 2s 0 -", "1940 1940 2 25 2s 1 S", "1944 1944 9 17 2s 0 -",
    "1945 1945 4 2 2s 1 S", "1945 1945 9 16 2s 0 -", "1946 1946 5 19 2s 1 S",
    "1946 1946 10 7 2s 0 -"]),
  ("c", [
    "1916 1916 4 30 23 1 S", "1916 1916 10 1 1 0 -", "1917 1918 4 Mon>=15 2s 1 S",
    "1917 1918 9 Mon>=15 2s 0 -", "1940 1940 4 1 2s 1 S", "1942 1942 11 2 2s 0 -",
    "1943 1943 3 29 2s 1 S", "1943 1943 10 4 2s 0 -", "1944 1945 4 Mon>=1 2s 1 S",
    "1944 1944 10 2 2s 0 -", "1945 1945 9 16 2s 0 -", "1977 1980 4 Sun>=1 2s 1 S",
    "1977 1977 9 last-Sun 2s 0 -", "1978 1978 10 1 2s 0 -", "1979 1995 9 last-Sun 2s 0 -",
    "1981 - 3 last-Sun 2s 1 S", "1996 - 10 last-Sun 2s 0 -"]),
  ("d", [
    "1916 1916 6 14 23s 1 S", "1916 1919 10 Sun>=1 23s 0 -", "1917 1917 3 24 23s 1 S",
    "1918 1918 3 9 23s 1 S", "1919 1919 3 1 23s 1 S", "1920 1920 2 14 23s 1 S",
    "1920 1920 10 23 23s 0 -", "1921 1921 3 14 23s 1 S", "1921 1921 6 21 23s 0 -",
    "1939 1939 9 11 23s 1 S", "1939 1939 11 19 1 0 -", "1944 1945 4 Mon>=1 2 1 S",
    "1944 1944 10 8 2 0 -", "1945 1945 9 16 1 0 -", "1971 1971 4 25 23s 1 S",
    "1971 1971 9 26 23s 0 -", "1977 1977 5 6 0 1 S", "1977 1977 10 21 0 0 -",
    "1978 1978 3 24 1 1 S", "1978 1978 9 22 3 0 -", "1980 1980 4 25 0 1 S",
    "1980 1980 10 31 2 0 -"]),
  ("e", [
    "1977 1980 4 Sun>=1 0 1 S", "1977 1977 9 last-Sun 0 0 -", "1978 1978 10 1 0 0 -",
    "1979 1995 9 last-Sun 0 0 -", "1981 - 3 last-Sun 0 1 S", "1996 - 10 last-Sun 0 0 -"]),
  ("f", [
    "1946 1946 5 15 0 1 D", "1946 1946 10 1 0 0 S", "1947 1947 4 15 0 1 D",
    "1947 1947 11 1 0 0 S", "1948 1951 5 1 0 1 D", "1948 1951 10 1 0 0 S",
    "1952 1952 3 1 0 1 D", "1952 1954 11 1 0 0 S", "1953 1959 4 1 0 1 D",
    "1955 1961 10 1 0 0 S", "1960 1961 6 1 0 1 D", "1974 1975 4 1 0 1 D",
    "1974 1975 10 1 0 0 S", "1979 1979 7 1 0 1 D", "1979 1979 10 1 0 0 S"]),
  ("g", [
    "1932 1932 7 7 0 1 S", "1932 1932 9 1 0 0 -", "1941 1941 4 7 0 1 S", "1942 1942 11 2 3 0 -",
    "1943 1943 3 30 0 1 S", "1943 1943 10 4 0 0 -", "1952 1952 7 1 0 1 S",
    "1952 1952 11 2 0 0 -", "1975 1975 4 12 0s 1 S", "1975 1975 11 26 0s 0 -",
    "1976 1976 4 11 2s 1 S", "1976 1976 10 10 2s 0 -", "1977 1978 4 Sun>=1 2s 1 S",
    "1977 1977 9 26 2s 0 -", "1978 1978 9 24 4 0 -", "1979 1979 4 1 9 1 S",
    "1979 1979 9 29 2 0 -", "1980 1980 4 1 0 1 S", "1980 1980 9 28 0 0 -"]),
  ("h", [
    "1918 1919 4 15 2 1 S", "1918 1920 9 Mon>=15 3 0 -", "1920 1920 4 5 2 1 S",
    "1945 1945 5 1 23 1 S", "1945 1945 11 1 1 0 -", "1946 1946 3 31 2s 1 S",
    "1946 1946 10 7 2 0 -", "1947 1949 4 Sun>=4 2s 1 S", "1947 1949 10 Sun>=1 2s 0 -",
    "1954 1954 5 23 0 1 S", "1954 1954 10 3 0 0 -", "1955 1955 5 22 2 1 S",
    "1955 1955 10 2 3 0 -", "1956 1957 6 Sun>=1 2 1 S", "1956 1957 9 last-Sun 3 0 -",
    "1980 1980 4 6 0 1 S", "1980 1980 9 28 1 0 -", "1981 1983 3 last-Sun 0 1 S",
    "1981 1983 9 last-Sun 1 0 -"]),
  ("i", [
    "1910 1910 1 1 0 0 -", "1977 1977 3 21 23 1 -", "1977 1977 10 20 24 0 -",
    "1978 1978 3 24 24 1 -", "1978 1978 8 5 1 0 -", "1979 1979 5 26 24 1 -",
    "1979 1979 9 18 24 0 -", "1980 1980 3 20 24 1 -", "1980 1980 9 22 24 0 -",
    "1991 1991 5 2 24 1 -", "1992 1995 3 21 24 1 -", "1991 1995 9 21 24 0 -",
    "1996 1996 3 20 24 1 -", "1996 1996 9 20 24 0 -", "1997 1999 3 21 24 1 -",
    "1997 1999 9 21 24 0 -", "2000 2000 3 20 24 1 -", "2000 2000 9 20 24 0 -",
    "2001 2003 3 21 24 1 -", "2001 2003 9 21 24 0 -", "2004 2004 3 20 24 1 -",
    "2004 2004 9 20 24 0 -", "2005 2005 3 21 24 1 -", "2005 2005 9 21 24 0 -",
    "2008 2008 3 20 24 1 -", "2008 2008 9 20 24 0 -", "2009 2011 3 21 24 1 -",
    "2009 2011 9 21 24 0 -", "2012 2012 3 20 24 1 -", "2012 2012 9 20 24 0 -",
    "2013 2015 3 21 24 1 -", "2013 2015 9 21 24 0 -", "2016 2016 3 20 24 1 -",
    "2016 2016 9 20 24 0 -", "2017 2019 3 21 24 1 -", "2017 2019 9 21 24 0 -",
    "2020 2020 3 20 24 1 -", "2020 2020 9 20 24 0 -", "2021 2022 3 21 24 1 -",
    "2021 2022 9 21 24 0 -"]),
  ("j", [
    "1917 1917 4 8 2 1 D", "1917 1917 9 17 2 0 S", "1919 1919 5 5 23 1 D",
    "1919 1919 8 12 23 0 S", "1920 1935 5 Sun>=1 23 1 D", "1920 1935 10 last-Sun 23 0 S",
    "1936 1941 5 Mon>=9 0 1 D", "1936 1941 10 Mon>=2 0 0 S", "1946 1950 5 Sun>=8 2 1 D",
    "1946 1950 10 Sun>=2 2 0 S", "1951 1986 4 last-Sun 2 1 D", "1951 1959 9 last-Sun 2 0 S",
    "1960 1986 10 last-Sun 2 0 S", "1987 1987 4 Sun>=1 0:1 1 D",
    "1987 2006 10 last-Sun 0:1 0 S", "1988 1988 4 Sun>=1 0:1 2 DD",
    "1989 2006 4 Sun>=1 0:1 1 D", "2007 2011 3 Sun>=8 0:1 1 D", "2007 2010 11 Sun>=1 0:1 0 S"]),
  ("k", [
    "1974 1974 11 Sun>=1 2:45s 1 -", "1975 1975 2 last-Sun 2:45s 0 -",
    "1975 1988 10 last-Sun 2:45s 1 -", "1976 1989 3 Sun>=1 2:45s 0 -",
    "1989 1989 10 Sun>=8 2:45s 1 -", "1990 2006 10 Sun>=1 2:45s 1 -",
    "1990 2007 3 Sun>=15 2:45s 0 -", "2007 - 9 last-Sun 2:45s 1 -", "2008 - 4 Sun>=1 2:45s 0 -"]),
  ("l", [
    "1920 1920 3 28 0 1 S", "1920 1920 10 25 0 0 -", "1921 1921 4 3 0 1 S",
    "1921 1921 10 3 0 0 -", "1922 1922 3 26 0 1 S", "1922 1922 10 8 0 0 -",
    "1923 1923 4 22 0 1 S", "1923 1923 9 16 0 0 -", "1957 1961 5 1 0 1 S",
    "1957 1961 10 1 0 0 -", "1972 1972 6 22 0 1 S", "1972 1977 10 1 0 0 -",
    "1973 1977 5 1 0 1 S", "1978 1978 4 30 0 1 S", "1978 1978 9 30 0 0 -",
    "1984 1987 5 1 0 1 S", "1984 1991 10 16 0 0 -", "1988 1988 6 1 0 1 S",
    "1989 1989 5 10 0 1 S", "1990 1992 5 1 0 1 S", "1992 1992 10 4 0 0 -",
    "1993 - 3 last-Sun 0 1 S", "1993 1998 9 last-Sun 0 0 -", "1999 - 10 last-Sun 0 0 -"]),
  ("m", [
    "1931 1931 4 30 0 1 D", "1931 1931 10 1 0 0 S", "1939 1939 2 5 0 1 D",
    "1939 1939 6 25 0 0 S", "1940 1940 12 9 0 1 D", "1941 1941 4 1 0 0 S",
    "1943 1943 12 16 0 1 W", "1944 1944 5 1 0 0 S", "1950 1950 2 12 0 1 D",
    "1950 1950 7 30 0 0 S", "1996 2000 4 Sun>=1 2 1 D", "1996 2000 10 last-Sun 2 0 S",
    "2001 2001 5 Sun>=1 2 1 D", "2001 2001 9 last-Sun 2 0 S", "2002 2022 4 Sun>=1 2 1 D",
    "2002 2022 10 last-Sun 2 0 S"]),
  ("n", [
    "1939 1939 4 15 23s 1 S", "1939 1939 11 18 23s 0 -", "1940 1940 2 25 23s 1 S",
    "1941 1941 10 6 0 0 -", "1942 1942 3 9 0 1 S", "1942 1942 11 2 3 0 -",
    "1943 1943 3 29 2 1 S", "1943 1943 4 17 2 0 -", "1943 1943 4 25 2 1 S",
    "1943 1943 10 4 2 0 -", "1944 1945 4 Mon>=1 2 1 S", "1944 1944 10 8 0 0 -",
    "1945 1945 9 16 0 0 -", "1977 1977 4 30 0s 1 S", "1977 1977 9 24 0s 0 -",
    "1978 1978 5 1 0s 1 S", "1978 1978 10 1 0s 0 -", "1988 1988 6 1 0s 1 S",
    "1988 1990 9 last-Sun 0s 0 -", "1989 1989 3 26 0s 1 S", "1990 1990 5 1 0s 1 S",
    "2005 2005 5 1 0s 1 S", "2005 2005 9 30 1s 0 -", "2006 2008 3 last-Sun 2s 1 S",
    "2006 2008 10 last-Sun 2s 0 -"]),
  ("o", [
    "1933 1935 6 Sun>=8 1 1 D", "1933 1935 9 Sun>=8 1 0 S", "1936 1938 6 Sun>=1 1 1 D",
    "1936 1938 9 Sun>=1 1 0 S", "1939 1939 5 27 1 1 D", "1939 1941 9 Sat>=21 1 0 S",
    "1940 1940 5 19 1 1 D", "1941 1941 5 4 1 1 D", "1946 1972 4 last-Sun 2 1 D",
    "1946 1956 9 last-Sun 2 0 S", "1957 1972 10 last-Sun 2 0 S", "1993 2006 4 Sun>=1 0:1 1 D",
    "1993 2006 10 last-Sun 0:1 0 S"]),
  ("p", [
    "1916 1916 6 17 23 1 S", "1916 1916 11 1 1 0 -", "1917 1921 3 1 0 1 S",
    "1917 1921 10 14 24 0 -", "1924 1924 4 16 23s 1 S", "1924 1924 10 4 23s 0 -",
    "1926 1926 4 17 23s 1 S", "1926 1929 10 Sat>=1 23s 0 -", "1927 1927 4 9 23s 1 S",
    "1928 1928 4 14 23s 1 S", "1929 1929 4 20 23s 1 S", "1931 1931 4 18 23s 1 S",
    "1931 1932 10 Sat>=1 23s 0 -", "1932 1932 4 2 23s 1 S", "1934 1934 4 7 23s 1 S",
    "1934 1938 10 Sat>=1 23s 0 -", "1935 1935 3 30 23s 1 S", "1936 1936 4 18 23s 1 S",
    "1937 1937 4 3 23s 1 S", "1938 1938 3 26 23s 1 S", "1939 1939 4 15 23s 1 S",
    "1939 1939 11 18 23s 0 -", "1940 1940 2 24 23s 1 S", "1940 1940 10 7 23s 0 -",
    "1941 1941 4 5 23s 1 S", "1941 1941 10 5 23s 0 -", "1942 1945 3 Sat>=8 23s 1 S",
    "1942 1942 4 25 22s 2 M", "1942 1942 8 15 22s 1 S", "1942 1945 10 Sat>=24 23s 0 -",
    "1943 1943 4 17 22s 2 M", "1943 1945 8 Sat>=25 22s 1 S", "1944 1945 4 Sat>=21 22s 2 M",
    "1946 1946 4 Sat>=1 23s 1 S", "1946 1946 10 Sat>=1 23s 0 -", "1947 1966 4 Sun>=1 2s 1 S",
    "1947 1965 10 Sun>=1 2s 0 -", "1976 1976 9 last-Sun 1 0 -", "1977 1977 3 last-Sun 0s 1 S",
    "1977 1977 9 last-Sun 0s 0 -", "1978 1980 4 Sun>=1 1s 1 S", "1978 1978 10 1 1s 0 -",
    "1979 1980 9 last-Sun 1s 0 -", "1981 1986 3 last-Sun 0s 1 S", "1981 1985 9 last-Sun 0s 0 -"]),
  ("q", [
    "1940 1940 6 16 0 1 S", "1942 1942 11 2 3 0 -", "1943 1943 3 29 2 1 S",
    "1943 1943 4 10 3 0 -", "1974 1974 5 4 0 1 S", "1974 1974 10 2 0 0 -",
    "1975 1975 5 1 0 1 S", "1975 1975 10 2 0 0 -", "1976 1976 5 2 0 1 S",
    "1976 1976 10 3 0 0 -", "1977 1977 5 8 0 1 S", "1977 1977 10 2 0 0 -",
    "1978 1978 5 6 0 1 S", "1978 1978 10 1 0 0 -", "1979 1979 5 5 0 1 S",
    "1979 1979 9 30 0 0 -", "1980 1980 5 3 0 1 S", "1980 1980 10 4 0 0 -",
    "1981 1981 4 26 0 1 S", "1981 1981 9 27 0 0 -", "1982 1982 5 2 0 1 S",
    "1982 1982 10 3 0 0 -", "1983 1983 4 18 0 1 S", "1983 1983 10 1 0 0 -",
    "1984 1984 4 1 0 1 S"]),
  ("r", [
    "1918 1918 4 14 2 1 D", "1918 1918 10 27 2 0 S", "1930 1934 5 Sun>=1 0 1 D",
    "1930 1934 10 Sun>=1 0 0 S", "1937 1941 4 Sun>=8 0 1 D", "1937 1937 10 Sun>=8 0 0 S",
    "1938 1938 10 Sun>=1 0 0 S", "1939 1941 10 Sun>=8 0 0 S", "1942 1942 2 9 2 1 W",
    "1945 1945 8 14 23u 1 P", "1945 1945 9 last-Sun 2 0 S", "1946 1946 4 Sun>=8 2 1 D",
    "1946 1946 10 Sun>=8 2 0 S", "1947 1957 4 last-Sun 2 1 D", "1947 1957 9 last-Sun 2 0 S",
    "1959 1959 4 last-Sun 2 1 D", "1959 1959 10 last-Sun 2 0 S"]),
  ("s", [
    "1918 1918 4 15 23 1 S", "1918 1919 10 6 24s 0 -", "1919 1919 4 6 23 1 S",
    "1924 1924 4 16 23 1 S", "1924 1924 10 4 24s 0 -", "1926 1926 4 17 23 1 S",
    "1926 1929 10 Sat>=1 24s 0 -", "1927 1927 4 9 23 1 S", "1928 1928 4 15 0 1 S",
    "1929 1929 4 20 23 1 S", "1937 1937 6 16 23 1 S", "1937 1937 10 2 24s 0 -",
    "1938 1938 4 2 23 1 S", "1938 1938 4 30 23 2 M", "1938 1938 10 2 24 1 S",
    "1939 1939 10 7 24s 0 -", "1942 1942 5 2 23 1 S", "1942 1942 9 1 1 0 -",
    "1943 1946 4 Sat>=13 23 1 S", "1943 1944 10 Sun>=1 1 0 -", "1945 1946 9 last-Sun 1 0 -",
    "1949 1949 4 30 23 1 S", "1949 1949 10 2 1 0 -", "1974 1975 4 Sat>=12 23 1 S",
    "1974 1975 10 Sun>=1 1 0 -", "1976 1976 3 27 23 1 S", "1976 1977 9 last-Sun 1 0 -",
    "1977 1977 4 2 23 1 S", "1978 1978 4 2 2s 1 S", "1978 1978 10 1 2s 0 -"]),
  ("t", [
    "1919 1919 3 30 23:30 1 D", "1919 1919 10 26 0 0 S", "1920 1920 5 2 2 1 D",
    "1920 1920 9 26 0 0 S", "1921 1921 5 15 2 1 D", "1921 1921 9 15 2 0 S",
    "1922 1923 5 Sun>=8 2 1 D", "1922 1926 9 Sun>=15 2 0 S", "1924 1927 5 Sun>=1 2 1 D",
    "1927 1937 9 Sun>=25 2 0 S", "1928 1937 4 Sun>=25 2 1 D", "1938 1940 4 last-Sun 2 1 D",
    "1938 1939 9 last-Sun 2 0 S", "1945 1948 9 last-Sun 2 0 S", "1946 1973 4 last-Sun 2 1 D",
    "1949 1950 11 last-Sun 2 0 S", "1951 1956 9 last-Sun 2 0 S", "1957 1973 10 last-Sun 2 0 S"]),
  ("u", [
    "1918 1919 3 last-Sun 2 1 D", "1918 1919 10 last-Sun 2 0 S", "1942 1942 2 9 2 1 W",
    "1945 1945 8 14 23u 1 P", "1945 1945 9 30 2 0 S", "1967 2006 10 last-Sun 2 0 S",
    "1967 1973 4 last-Sun 2 1 D", "1974 1974 1 6 2 1 D", "1975 1975 2 last-Sun 2 1 D",
    "1976 1986 4 last-Sun 2 1 D", "1987 2006 4 Sun>=1 2 1 D", "2007 - 3 Sun>=8 2 1 D",
    "2007 - 11 Sun>=1 2 0 S"]),
  ("v", [
    "1921 1921 5 1 2 1 D", "1921 1921 9 1 2 0 S", "1941 1941 4 last-Sun 2 1 D",
    "1941 1941 9 last-Sun 2 0 S", "1946 1946 4 last-Sun 0:1 1 D", "1946 1946 6 2 2 0 S",
    "1950 1961 4 last-Sun 2 1 D", "1950 1955 9 last-Sun 2 0 S", "1956 1961 10 last-Sun 2 0 S"]),
  ("x", [
    "1927 1931 9 1 0 1 -", "1928 1932 4 1 0 0 -", "1968 1968 11 3 4u 1 -",
    "1969 1969 3 30 3u 0 -", "1969 1969 11 23 4u 1 -", "1970 1970 3 29 3u 0 -",
    "1971 1971 3 14 3u 0 -", "1970 1972 10 Sun>=9 4u 1 -", "1972 1986 3 Sun>=9 3u 0 -",
    "1973 1973 9 30 4u 1 -", "1974 1987 10 Sun>=9 4u 1 -", "1987 1987 4 12 3u 0 -",
    "1988 1990 3 Sun>=9 3u 0 -", "1988 1989 10 Sun>=9 4u 1 -", "1990 1990 9 16 4u 1 -",
    "1991 1996 3 Sun>=9 3u 0 -", "1991 1997 10 Sun>=9 4u 1 -", "1997 1997 3 30 3u 0 -",
    "1998 1998 3 Sun>=9 3u 0 -", "1998 1998 9 27 4u 1 -", "1999 1999 4 4 3u 0 -",
    "1999 2010 10 Sun>=9 4u 1 -", "2000 2007 3 Sun>=9 3u 0 -", "2008 2008 3 30 3u 0 -",
    "2009 2009 3 Sun>=9 3u 0 -", "2010 2010 4 Sun>=1 3u 0 -", "2011 2011 5 Sun>=2 3u 0 -",
    "2011 2011 8 Sun>=16 4u 1 -", "2012 2014 4 Sun>=23 3u 0 -", "2012 2014 9 Sun>=2 4u 1 -",
    "2016 2018 5 Sun>=9 3u 0 -", "2016 2018 8 Sun>=9 4u 1 -", "2019 - 4 Sun>=2 3u 0 -",
    "2019 2021 9 Sun>=2 4u 1 -", "2022 2022 9 Sun>=9 4u 1 -", "2023 - 9 Sun>=2 4u 1 -"]),
  ("y", [
    "1975 1988 10 1 0 1 -", "1975 1978 3 1 0 0 -", "1979 1991 4 1 0 0 -",
    "1989 1989 10 22 0 1 -", "1990 1990 10 1 0 1 -", "1991 1991 10 6 0 1 -",
    "1992 1992 3 1 0 0 -", "1992 1992 10 5 0 1 -", "1993 1993 3 31 0 0 -",
    "1993 1995 10 1 0 1 -", "1994 1995 2 last-Sun 0 0 -", "1996 1996 3 1 0 0 -",
    "1996 2001 10 Sun>=1 0 1 -", "1997 1997 2 last-Sun 0 0 -", "1998 2001 3 Sun>=1 0 0 -",
    "2002 2004 4 Sun>=1 0 0 -", "2002 2003 9 Sun>=1 0 1 -", "2004 2009 10 Sun>=15 0 1 -",
    "2005 2009 3 Sun>=8 0 0 -", "2010 2024 10 Sun>=1 0 1 -", "2010 2012 4 Sun>=8 0 0 -",
    "2013 2024 3 Sun>=22 0 0 -"]),
  ("z", [
    "1932 1932 5 21 0s 1 S", "1932 1939 10 Sun>=1 0s 0 -", "1933 1939 4 Sun>=2 0s 1 S",
    "1979 1979 5 27 0 1 S", "1979 1979 9 last-Sun 0 0 -", "1980 1980 4 5 23 1 S",
    "1980 1980 9 last-Sun 1 0 -", "1991 1993 3 last-Sun 0s 1 S", "1991 1993 9 last-Sun 0s 0 -"])]

end Newswire.Calendar.Zone
