/-!
# Time zones

The zones of the world by name, with the stretches of time that each of them has gone through. A
stretch is written as the standard offset, the saving (a dash for none, an amount, or the name of
the rules that give it), the form of the short name, and the year, month, day and time at which it
ends; the last stretch goes on for good. Other names of zones stand in a table of their own.
-/

namespace Newswire.Calendar.Zone

def africaTable : List (String × List String) := [
  ("Africa/Abidjan", ["-0:16:8 - LMT 1912", "0 - GMT"]),
  ("Africa/Algiers", [
    "0:12:12 - LMT 1891 3 16", "0:9:21 - PMT 1911 3 11", "0 d WE%sT 1940 2 25 2",
    "1 d CE%sT 1946 10 7", "0 - WET 1956 1 29", "1 - CET 1963 4 14", "0 d WE%sT 1977 10 21",
    "1 d CE%sT 1979 10 26", "0 d WE%sT 1981 5", "1 - CET"]),
  ("Africa/Bissau", ["-1:2:20 - LMT 1912 1 1 1u", "-1 - -01 1975", "0 - GMT"]),
  ("Africa/Cairo", ["2:5:9 - LMT 1900 10", "2 K EE%sT"]),
  ("Africa/Casablanca", [
    "-0:30:20 - LMT 1913 10 26", "0 M +00/+01 1984 3 16", "1 - +01 1986",
    "0 M +00/+01 2018 10 28 3", "0 M +00/+01"]),
  ("Africa/Ceuta", [
    "-0:21:16 - LMT 1901 1 1 0u", "0 - WET 1918 5 6 23", "0 1 WEST 1918 10 7 23",
    "0 - WET 1924", "0 s WE%sT 1929", "0 - WET 1967", "0 Sp WE%sT 1984 3 16", "1 - CET 1986",
    "1 E CE%sT"]),
  ("Africa/El_Aaiun", [
    "-0:52:48 - LMT 1934", "-1 - -01 1976 4 14", "0 M +00/+01 2018 10 28 3", "0 M +00/+01"]),
  ("Africa/Johannesburg", ["1:52 - LMT 1892 2 8", "1:30 - SAST 1903 3", "2 SA SAST"]),
  ("Africa/Juba", ["2:6:28 - LMT 1931", "2 SD CA%sT 2000 1 15 12", "3 - EAT 2021 2", "2 - CAT"]),
  ("Africa/Khartoum", [
    "2:10:8 - LMT 1931", "2 SD CA%sT 2000 1 15 12", "3 - EAT 2017 11", "2 - CAT"]),
  ("Africa/Lagos", [
    "0:13:35 - LMT 1905 7", "0 - GMT 1908 7", "0:13:35 - LMT 1914", "0:30 - +0030 1919 9",
    "1 - WAT"]),
  ("Africa/Maputo", ["2:10:18 - LMT 1909", "2 - CAT"]),
  ("Africa/Monrovia", [
    "-0:43:8 - LMT 1882", "-0:43:8 - MMT 1919 3", "-0:44:30 - MMT 1972 1 7", "0 - GMT"]),
  ("Africa/Nairobi", [
    "2:27:16 - LMT 1908 5", "2:30 - +0230 1928 6 30 24", "3 - EAT 1930 1 4 24",
    "2:30 - +0230 1936 12 31 24", "2:45 - +0245 1942 7 31 24", "3 - EAT"]),
  ("Africa/Ndjamena", [
    "1:0:12 - LMT 1912", "1 - WAT 1979 10 14", "1 1 WAST 1980 3 8", "1 - WAT"]),
  ("Africa/Sao_Tome", [
    "0:26:56 - LMT 1884", "-0:36:45 - LMT 1912 1 1 0u", "0 - GMT 2018 1 1 1",
    "1 - WAT 2019 1 1 2", "0 - GMT"]),
  ("Africa/Tripoli", [
    "0:52:44 - LMT 1920", "1 L CE%sT 1959", "2 - EET 1982", "1 L CE%sT 1990 5 4",
    "2 - EET 1996 9 30", "1 L CE%sT 1997 10 4", "2 - EET 2012 11 10 2",
    "1 L CE%sT 2013 10 25 2", "2 - EET"]),
  ("Africa/Tunis", ["0:40:44 - LMT 1881 5 12", "0:9:21 - PMT 1911 3 11", "1 n CE%sT"]),
  ("Africa/Windhoek", [
    "1:8:24 - LMT 1892 2 8", "1:30 - +0130 1903 3", "2 - SAST 1942 9 20 2",
    "2 1 SAST 1943 3 21 2", "2 - SAST 1990 3 21", "2 - CAT 1994 3 21", "1 NA %s 2017 10 24",
    "2 - CAT"])]

def americaTable : List (String × List String) := [
  ("America/Adak", [
    "12:13:22 - LMT 1867 10 19 12:44:35", "-11:46:38 - LMT 1900 8 20 12", "-11 - NST 1942",
    "-11 u N%sT 1946", "-11 - NST 1967 4", "-11 - BST 1969", "-11 u B%sT 1983 10 30 2",
    "-10 u AH%sT 1983 11 30", "-10 u H%sT"]),
  ("America/Anchorage", [
    "14:0:24 - LMT 1867 10 19 14:31:37", "-9:59:36 - LMT 1900 8 20 12", "-10 - AST 1942",
    "-10 u A%sT 1967 4", "-10 - AHST 1969", "-10 u AH%sT 1983 10 30 2", "-9 u Y%sT 1983 11 30",
    "-9 u AK%sT"]),
  ("America/Araguaina", [
    "-3:12:48 - LMT 1914", "-3 B -03/-02 1990 9 17", "-3 - -03 1995 9 14",
    "-3 B -03/-02 2003 9 24", "-3 - -03 2012 10 21", "-3 B -03/-02 2013 9", "-3 - -03"]),
  ("America/Argentina/Buenos_Aires", [
    "-3:53:48 - LMT 1894 10 31", "-4:16:48 - CMT 1920 5", "-4 - -04 1930 12",
    "-4 A -04/-03 1969 10 5", "-3 A -03/-02 1999 10 3", "-4 A -04/-03 2000 3 3", "-3 A -03/-02"]),
  ("America/Argentina/Catamarca", [
    "-4:23:8 - LMT 1894 10 31", "-4:16:48 - CMT 1920 5", "-4 - -04 1930 12",
    "-4 A -04/-03 1969 10 5", "-3 A -03/-02 1991 3 3", "-4 - -04 1991 10 20",
    "-3 A -03/-02 1999 10 3", "-4 A -04/-03 2000 3 3", "-3 - -03 2004 6", "-4 - -04 2004 6 20",
    "-3 A -03/-02 2008 10 18", "-3 - -03"]),
  ("America/Argentina/Cordoba", [
    "-4:16:48 - LMT 1894 10 31", "-4:16:48 - CMT 1920 5", "-4 - -04 1930 12",
    "-4 A -04/-03 1969 10 5", "-3 A -03/-02 1991 3 3", "-4 - -04 1991 10 20",
    "-3 A -03/-02 1999 10 3", "-4 A -04/-03 2000 3 3", "-3 A -03/-02"]),
  ("America/Argentina/Jujuy", [
    "-4:21:12 - LMT 1894 10 31", "-4:16:48 - CMT 1920 5", "-4 - -04 1930 12",
    "-4 A -04/-03 1969 10 5", "-3 A -03/-02 1990 3 4", "-4 - -04 1990 10 28",
    "-4 1 -03 1991 3 17", "-4 - -04 1991 10 6", "-3 1 -02 1992", "-3 A -03/-02 1999 10 3",
    "-4 A -04/-03 2000 3 3", "-3 A -03/-02 2008 10 18", "-3 - -03"]),
  ("America/Argentina/La_Rioja", [
    "-4:27:24 - LMT 1894 10 31", "-4:16:48 - CMT 1920 5", "-4 - -04 1930 12",
    "-4 A -04/-03 1969 10 5", "-3 A -03/-02 1991 3", "-4 - -04 1991 5 7",
    "-3 A -03/-02 1999 10 3", "-4 A -04/-03 2000 3 3", "-3 - -03 2004 6", "-4 - -04 2004 6 20",
    "-3 A -03/-02 2008 10 18", "-3 - -03"]),
  ("America/Argentina/Mendoza", [
    "-4:35:16 - LMT 1894 10 31", "-4:16:48 - CMT 1920 5", "-4 - -04 1930 12",
    "-4 A -04/-03 1969 10 5", "-3 A -03/-02 1990 3 4", "-4 - -04 1990 10 15", "-4 1 -03 1991 3",
    "-4 - -04 1991 10 15", "-4 1 -03 1992 3", "-4 - -04 1992 10 18", "-3 A -03/-02 1999 10 3",
    "-4 A -04/-03 2000 3 3", "-3 - -03 2004 5 23", "-4 - -04 2004 9 26",
    "-3 A -03/-02 2008 10 18", "-3 - -03"]),
  ("America/Argentina/Rio_Gallegos", [
    "-4:36:52 - LMT 1894 10 31", "-4:16:48 - CMT 1920 5", "-4 - -04 1930 12",
    "-4 A -04/-03 1969 10 5", "-3 A -03/-02 1999 10 3", "-4 A -04/-03 2000 3 3",
    "-3 - -03 2004 6", "-4 - -04 2004 6 20", "-3 A -03/-02 2008 10 18", "-3 - -03"]),
  ("America/Argentina/Salta", [
    "-4:21:40 - LMT 1894 10 31", "-4:16:48 - CMT 1920 5", "-4 - -04 1930 12",
    "-4 A -04/-03 1969 10 5", "-3 A -03/-02 1991 3 3", "-4 - -04 1991 10 20",
    "-3 A -03/-02 1999 10 3", "-4 A -04/-03 2000 3 3", "-3 A -03/-02 2008 10 18", "-3 - -03"]),
  ("America/Argentina/San_Juan", [
    "-4:34:4 - LMT 1894 10 31", "-4:16:48 - CMT 1920 5", "-4 - -04 1930 12",
    "-4 A -04/-03 1969 10 5", "-3 A -03/-02 1991 3", "-4 - -04 1991 5 7",
    "-3 A -03/-02 1999 10 3", "-4 A -04/-03 2000 3 3", "-3 - -03 2004 5 31",
    "-4 - -04 2004 7 25", "-3 A -03/-02 2008 10 18", "-3 - -03"]),
  ("America/Argentina/San_Luis", [
    "-4:25:24 - LMT 1894 10 31", "-4:16:48 - CMT 1920 5", "-4 - -04 1930 12",
    "-4 A -04/-03 1969 10 5", "-3 A -03/-02 1990", "-3 1 -02 1990 3 14", "-4 - -04 1990 10 15",
    "-4 1 -03 1991 3", "-4 - -04 1991 6", "-3 - -03 1999 10 3", "-4 1 -03 2000 3 3",
    "-3 - -03 2004 5 31", "-4 - -04 2004 7 25", "-3 A -03/-02 2008 1 21",
    "-4 Sa -04/-03 2009 10 11", "-3 - -03"]),
  ("America/Argentina/Tucuman", [
    "-4:20:52 - LMT 1894 10 31", "-4:16:48 - CMT 1920 5", "-4 - -04 1930 12",
    "-4 A -04/-03 1969 10 5", "-3 A -03/-02 1991 3 3", "-4 - -04 1991 10 20",
    "-3 A -03/-02 1999 10 3", "-4 A -04/-03 2000 3 3", "-3 - -03 2004 6", "-4 - -04 2004 6 13",
    "-3 A -03/-02"]),
  ("America/Argentina/Ushuaia", [
    "-4:33:12 - LMT 1894 10 31", "-4:16:48 - CMT 1920 5", "-4 - -04 1930 12",
    "-4 A -04/-03 1969 10 5", "-3 A -03/-02 1999 10 3", "-4 A -04/-03 2000 3 3",
    "-3 - -03 2004 5 30", "-4 - -04 2004 6 20", "-3 A -03/-02 2008 10 18", "-3 - -03"]),
  ("America/Asuncion", [
    "-3:50:40 - LMT 1890", "-3:50:40 - AMT 1931 10 10", "-4 - -04 1972 10", "-3 - -03 1974 4",
    "-4 y -04/-03 2024 10 15", "-3 - -03"]),
  ("America/Bahia", [
    "-2:34:4 - LMT 1914", "-3 B -03/-02 2003 9 24", "-3 - -03 2011 10 16",
    "-3 B -03/-02 2012 10 21", "-3 - -03"]),
  ("America/Bahia_Banderas", [
    "-7:1 - LMT 1922 1 1 7u", "-7 - MST 1927 6 10", "-6 - CST 1930 11 15", "-7 m M%sT 1932 4",
    "-6 - CST 1942 4 24", "-7 - MST 1970", "-7 m M%sT 2010 4 4 2", "-6 m C%sT"]),
  ("America/Barbados", [
    "-3:58:29 - LMT 1911 8 28", "-4 BB A%sT 1944", "-4 BB AST/-0330 1945", "-4 BB A%sT"]),
  ("America/Belem", ["-3:13:56 - LMT 1914", "-3 B -03/-02 1988 9 12", "-3 - -03"]),
  ("America/Belize", ["-5:52:48 - LMT 1912 4", "-6 BZ %s"]),
  ("America/Boa_Vista", [
    "-4:2:40 - LMT 1914", "-4 B -04/-03 1988 9 12", "-4 - -04 1999 9 30",
    "-4 B -04/-03 2000 10 15", "-4 - -04"]),
  ("America/Bogota", ["-4:56:16 - LMT 1884 3 13", "-4:56:16 - BMT 1914 11 23", "-5 CO -05/-04"]),
  ("America/Boise", [
    "-7:44:49 - LMT 1883 11 18 20u", "-8 u P%sT 1923 5 13 2", "-7 u M%sT 1974",
    "-7 - MST 1974 2 3 2", "-7 u M%sT"]),
  ("America/Cambridge_Bay", [
    "0 - -00 1920", "-7 Y M%sT 1999 10 31 2", "-6 C C%sT 2000 10 29 2", "-5 - EST 2000 11 5",
    "-6 - CST 2001 4 1 3", "-7 C M%sT"]),
  ("America/Campo_Grande", ["-3:38:28 - LMT 1914", "-4 B -04/-03"]),
  ("America/Cancun", [
    "-5:47:4 - LMT 1922 1 1 6u", "-6 - CST 1981 12 26 2", "-5 - EST 1983 1 4",
    "-6 m C%sT 1997 10 26 2", "-5 m E%sT 1998 8 2 2", "-6 m C%sT 2015 2 1 2", "-5 - EST"]),
  ("America/Caracas", [
    "-4:27:44 - LMT 1890", "-4:27:40 - CMT 1912 2 12", "-4:30 - -0430 1965",
    "-4 - -04 2007 12 9 3", "-4:30 - -0430 2016 5 1 2:30", "-4 - -04"]),
  ("America/Cayenne", ["-3:29:20 - LMT 1911 7", "-4 - -04 1967 10", "-3 - -03"]),
  ("America/Chicago", [
    "-5:50:36 - LMT 1883 11 18 18u", "-6 u C%sT 1920", "-6 Ch C%sT 1936 3 1 2",
    "-5 - EST 1936 11 15 2", "-6 Ch C%sT 1942", "-6 u C%sT 1946", "-6 Ch C%sT 1967", "-6 u C%sT"]),
  ("America/Chihuahua", [
    "-7:4:20 - LMT 1922 1 1 7u", "-7 - MST 1927 6 10", "-6 - CST 1930 11 15",
    "-7 m M%sT 1932 4", "-6 - CST 1996", "-6 m C%sT 1998", "-6 - CST 1998 4 Sun>=1 3",
    "-7 m M%sT 2022 10 30 2", "-6 - CST"]),
  ("America/Ciudad_Juarez", [
    "-7:5:56 - LMT 1922 1 1 7u", "-7 - MST 1927 6 10", "-6 - CST 1930 11 15",
    "-7 m M%sT 1932 4", "-6 - CST 1996", "-6 m C%sT 1998", "-6 - CST 1998 4 Sun>=1 3",
    "-7 m M%sT 2010", "-7 u M%sT 2022 10 30 2", "-6 - CST 2022 11 30", "-7 u M%sT"]),
  ("America/Costa_Rica", ["-5:36:13 - LMT 1890", "-5:36:13 - SJMT 1921 1 15", "-6 CR C%sT"]),
  ("America/Coyhaique", [
    "-4:48:16 - LMT 1890", "-4:42:45 - SMT 1910 1 10", "-5 - -05 1916 7",
    "-4:42:45 - SMT 1918 9 10", "-4 - -04 1919 7", "-4:42:45 - SMT 1927 9",
    "-5 x -05/-04 1932 9", "-4 - -04 1942 6", "-5 - -05 1942 8", "-4 - -04 1946 8 28 24",
    "-5 1 -04 1947 3 31 24", "-5 - -05 1947 5 21 23", "-4 x -04/-03 2025 3 20", "-3 - -03"]),
  ("America/Cuiaba", [
    "-3:44:20 - LMT 1914", "-4 B -04/-03 2003 9 24", "-4 - -04 2004 10", "-4 B -04/-03"]),
  ("America/Danmarkshavn", [
    "-1:14:40 - LMT 1916 7 28", "-3 - -03 1980 4 6 2", "-3 E -03/-02 1996", "0 - GMT"]),
  ("America/Dawson", [
    "-9:17:40 - LMT 1900 8 20", "-9 Y Y%sT 1965", "-9 Yu Y%sT 1973 10 28", "-8 - PST 1980",
    "-8 C P%sT 2020 11", "-7 - MST"]),
  ("America/Dawson_Creek", [
    "-8:0:56 - LMT 1884", "-8 C P%sT 1947", "-8 Va P%sT 1972 8 30 2", "-7 - MST"]),
  ("America/Denver", [
    "-6:59:56 - LMT 1883 11 18 19u", "-7 u M%sT 1920", "-7 De M%sT 1942", "-7 u M%sT 1946",
    "-7 De M%sT 1967", "-7 u M%sT"]),
  ("America/Detroit", [
    "-5:32:11 - LMT 1905", "-6 - CST 1915 5 15 2", "-5 - EST 1942", "-5 u E%sT 1946",
    "-5 Dt E%sT 1967 6 14 0:1", "-5 u E%sT 1969", "-5 - EST 1973", "-5 u E%sT 1975",
    "-5 - EST 1975 4 27 2", "-5 u E%sT"]),
  ("America/Edmonton", ["-7:33:52 - LMT 1906 9", "-7 Ed M%sT 1987", "-7 C M%sT"]),
  ("America/Eirunepe", [
    "-4:39:28 - LMT 1914", "-5 B -05/-04 1988 9 12", "-5 - -05 1993 9 28",
    "-5 B -05/-04 1994 9 22", "-5 - -05 2008 6 24", "-4 - -04 2013 11 10", "-5 - -05"]),
  ("America/El_Salvador", ["-5:56:48 - LMT 1921", "-6 SV C%sT"]),
  ("America/Fort_Nelson", [
    "-8:10:47 - LMT 1884", "-8 Va P%sT 1946", "-8 - PST 1947", "-8 Va P%sT 1987",
    "-8 C P%sT 2015 3 8 2", "-7 - MST"]),
  ("America/Fortaleza", [
    "-2:34 - LMT 1914", "-3 B -03/-02 1990 9 17", "-3 - -03 1999 9 30",
    "-3 B -03/-02 2000 10 22", "-3 - -03 2001 9 13", "-3 B -03/-02 2002 10", "-3 - -03"]),
  ("America/Glace_Bay", [
    "-3:59:48 - LMT 1902 6 15", "-4 C A%sT 1953", "-4 H A%sT 1954", "-4 - AST 1972",
    "-4 H A%sT 1974", "-4 C A%sT"]),
  ("America/Goose_Bay", [
    "-4:1:40 - LMT 1884", "-3:30:52 - NST 1918", "-3:30:52 C N%sT 1919",
    "-3:30:52 - NST 1935 3 30", "-3:30 - NST 1936", "-3:30 j N%sT 1942 5 11",
    "-3:30 C N%sT 1946", "-3:30 j N%sT 1966 3 15 2", "-4 j A%sT 2011 11", "-4 C A%sT"]),
  ("America/Grand_Turk", [
    "-4:44:32 - LMT 1890", "-5:7:10 - KMT 1912 2", "-5 - EST 1979", "-5 u E%sT 2015 3 8 2",
    "-4 - AST 2018 3 11 3", "-5 u E%sT"]),
  ("America/Guatemala", ["-6:2:4 - LMT 1918 10 5", "-6 GT C%sT"]),
  ("America/Guayaquil", ["-5:19:20 - LMT 1890", "-5:14 - QMT 1931", "-5 EC -05/-04"]),
  ("America/Guyana", [
    "-3:52:39 - LMT 1911 8", "-4 - -04 1915 3", "-3:45 - -0345 1975 8", "-3 - -03 1992 3 29 1",
    "-4 - -04"]),
  ("America/Halifax", [
    "-4:14:24 - LMT 1902 6 15", "-4 H A%sT 1918", "-4 C A%sT 1919", "-4 H A%sT 1942 2 9 2s",
    "-4 C A%sT 1946", "-4 H A%sT 1974", "-4 C A%sT"]),
  ("America/Havana", ["-5:29:28 - LMT 1890", "-5:29:36 - HMT 1925 7 19 12", "-5 Q C%sT"]),
  ("America/Hermosillo", [
    "-7:23:52 - LMT 1922 1 1 7u", "-7 - MST 1927 6 10", "-6 - CST 1930 11 15",
    "-7 m M%sT 1932 4", "-6 - CST 1942 4 24", "-7 - MST 1996", "-7 m M%sT 1999", "-7 - MST"]),
  ("America/Indiana/Indianapolis", [
    "-5:44:38 - LMT 1883 11 18 18u", "-6 u C%sT 1920", "-6 In C%sT 1942", "-6 u C%sT 1946",
    "-6 In C%sT 1955 4 24 2", "-5 - EST 1957 9 29 2", "-6 - CST 1958 4 27 2", "-5 - EST 1969",
    "-5 u E%sT 1971", "-5 - EST 2006", "-5 u E%sT"]),
  ("America/Indiana/Knox", [
    "-5:46:30 - LMT 1883 11 18 18u", "-6 u C%sT 1947", "-6 St C%sT 1962 4 29 2",
    "-5 - EST 1963 10 27 2", "-6 u C%sT 1991 10 27 2", "-5 - EST 2006 4 2 2", "-6 u C%sT"]),
  ("America/Indiana/Marengo", [
    "-5:45:23 - LMT 1883 11 18 18u", "-6 u C%sT 1951", "-6 Ma C%sT 1961 4 30 2",
    "-5 - EST 1969", "-5 u E%sT 1974 1 6 2", "-6 1 CDT 1974 10 27 2", "-5 u E%sT 1976",
    "-5 - EST 2006", "-5 u E%sT"]),
  ("America/Indiana/Petersburg", [
    "-5:49:7 - LMT 1883 11 18 18u", "-6 u C%sT 1955", "-6 Pi C%sT 1965 4 25 2",
    "-5 - EST 1966 10 30 2", "-6 u C%sT 1977 10 30 2", "-5 - EST 2006 4 2 2",
    "-6 u C%sT 2007 11 4 2", "-5 u E%sT"]),
  ("America/Indiana/Tell_City", [
    "-5:47:3 - LMT 1883 11 18 18u", "-6 u C%sT 1946", "-6 Pe C%sT 1964 4 26 2",
    "-5 - EST 1967 10 29 2", "-6 u C%sT 1969 4 27 2", "-5 u E%sT 1971", "-5 - EST 2006 4 2 2",
    "-6 u C%sT"]),
  ("America/Indiana/Vevay", [
    "-5:40:16 - LMT 1883 11 18 18u", "-6 u C%sT 1954 4 25 2", "-5 - EST 1969", "-5 u E%sT 1973",
    "-5 - EST 2006", "-5 u E%sT"]),
  ("America/Indiana/Vincennes", [
    "-5:50:7 - LMT 1883 11 18 18u", "-6 u C%sT 1946", "-6 V C%sT 1964 4 26 2", "-5 - EST 1969",
    "-5 u E%sT 1971", "-5 - EST 2006 4 2 2", "-6 u C%sT 2007 11 4 2", "-5 u E%sT"]),
  ("America/Indiana/Winamac", [
    "-5:46:25 - LMT 1883 11 18 18u", "-6 u C%sT 1946", "-6 Pu C%sT 1961 4 30 2",
    "-5 - EST 1969", "-5 u E%sT 1971", "-5 - EST 2006 4 2 2", "-6 u C%sT 2007 3 11 2",
    "-5 u E%sT"]),
  ("America/Inuvik", [
    "0 - -00 1953", "-8 Y P%sT 1979 4 last-Sun 2", "-7 Y M%sT 1980", "-7 C M%sT"]),
  ("America/Iqaluit", [
    "0 - -00 1942 8", "-5 Y E%sT 1999 10 31 2", "-6 C C%sT 2000 10 29 2", "-5 C E%sT"]),
  ("America/Jamaica", [
    "-5:7:10 - LMT 1890", "-5:7:10 - KMT 1912 2", "-5 - EST 1974", "-5 u E%sT 1984", "-5 - EST"]),
  ("America/Juneau", [
    "15:2:19 - LMT 1867 10 19 15:33:32", "-8:57:41 - LMT 1900 8 20 12", "-8 - PST 1942",
    "-8 u P%sT 1946", "-8 - PST 1969", "-8 u P%sT 1980 4 27 2", "-9 u Y%sT 1980 10 26 2",
    "-8 u P%sT 1983 10 30 2", "-9 u Y%sT 1983 11 30", "-9 u AK%sT"]),
  ("America/Kentucky/Louisville", [
    "-5:43:2 - LMT 1883 11 18 18u", "-6 u C%sT 1921", "-6 v C%sT 1942", "-6 u C%sT 1946",
    "-6 v C%sT 1961 7 23 2", "-5 - EST 1968", "-5 u E%sT 1974 1 6 2", "-6 1 CDT 1974 10 27 2",
    "-5 u E%sT"]),
  ("America/Kentucky/Monticello", [
    "-5:39:24 - LMT 1883 11 18 18u", "-6 u C%sT 1946", "-6 - CST 1968",
    "-6 u C%sT 2000 10 29 2", "-5 u E%sT"]),
  ("America/La_Paz", [
    "-4:32:36 - LMT 1890", "-4:32:36 - CMT 1931 10 15", "-4:32:36 1 BST 1932 3 21", "-4 - -04"]),
  ("America/Lima", ["-5:8:12 - LMT 1890", "-5:8:36 - LMT 1908 7 28", "-5 PE -05/-04"]),
  ("America/Los_Angeles", [
    "-7:52:58 - LMT 1883 11 18 20u", "-8 u P%sT 1946", "-8 CA P%sT 1967", "-8 u P%sT"]),
  ("America/Maceio", [
    "-2:22:52 - LMT 1914", "-3 B -03/-02 1990 9 17", "-3 - -03 1995 10 13",
    "-3 B -03/-02 1996 9 4", "-3 - -03 1999 9 30", "-3 B -03/-02 2000 10 22",
    "-3 - -03 2001 9 13", "-3 B -03/-02 2002 10", "-3 - -03"]),
  ("America/Managua", [
    "-5:45:8 - LMT 1890", "-5:45:12 - MMT 1934 6 23", "-6 - CST 1973 5", "-5 - EST 1975 2 16",
    "-6 NI C%sT 1992 1 1 4", "-5 - EST 1992 9 24", "-6 - CST 1993", "-5 - EST 1997",
    "-6 NI C%sT"]),
  ("America/Manaus", [
    "-4:0:4 - LMT 1914", "-4 B -04/-03 1988 9 12", "-4 - -04 1993 9 28",
    "-4 B -04/-03 1994 9 22", "-4 - -04"]),
  ("America/Martinique", [
    "-4:4:20 - LMT 1890", "-4:4:20 - FFMT 1911 5", "-4 - AST 1980 4 6", "-4 1 ADT 1980 9 28",
    "-4 - AST"]),
  ("America/Matamoros", [
    "-6:30 - LMT 1922 1 1 6u", "-6 - CST 1988", "-6 u C%sT 1989", "-6 m C%sT 2010", "-6 u C%sT"]),
  ("America/Mazatlan", [
    "-7:5:40 - LMT 1922 1 1 7u", "-7 - MST 1927 6 10", "-6 - CST 1930 11 15",
    "-7 m M%sT 1932 4", "-6 - CST 1942 4 24", "-7 - MST 1970", "-7 m M%sT"]),
  ("America/Menominee", [
    "-5:50:27 - LMT 1885 9 18 12", "-6 u C%sT 1946", "-6 Me C%sT 1969 4 27 2",
    "-5 - EST 1973 4 29 2", "-6 u C%sT"]),
  ("America/Merida", [
    "-5:58:28 - LMT 1922 1 1 6u", "-6 - CST 1981 12 26 2", "-5 - EST 1982 11 2 2", "-6 m C%sT"]),
  ("America/Metlakatla", [
    "15:13:42 - LMT 1867 10 19 15:44:55", "-8:46:18 - LMT 1900 8 20 12", "-8 - PST 1942",
    "-8 u P%sT 1946", "-8 - PST 1969", "-8 u P%sT 1983 10 30 2", "-8 - PST 2015 11 1 2",
    "-9 u AK%sT 2018 11 4 2", "-8 - PST 2019 1 20 2", "-9 u AK%sT"]),
  ("America/Mexico_City", [
    "-6:36:36 - LMT 1922 1 1 7u", "-7 - MST 1927 6 10", "-6 - CST 1930 11 15",
    "-7 m M%sT 1932 4", "-6 m C%sT 2001 9 30 2", "-6 - CST 2002 2 20", "-6 m C%sT"]),
  ("America/Miquelon", [
    "-3:44:40 - LMT 1911 6 15", "-4 - AST 1980 5", "-3 - -03 1987", "-3 C -03/-02"]),
  ("America/Moncton", [
    "-4:19:8 - LMT 1883 12 9", "-5 - EST 1902 6 15", "-4 C A%sT 1933", "-4 o A%sT 1942",
    "-4 C A%sT 1946", "-4 o A%sT 1973", "-4 C A%sT 1993", "-4 o A%sT 2007", "-4 C A%sT"]),
  ("America/Monterrey", [
    "-6:41:16 - LMT 1922 1 1 6u", "-7 - MST 1927 6 10", "-6 - CST 1930 11 15",
    "-7 m M%sT 1932 4", "-6 - CST 1988", "-6 u C%sT 1989", "-6 m C%sT"]),
  ("America/Montevideo", [
    "-3:44:51 - LMT 1908 6 10", "-3:44:51 - MMT 1920 5", "-4 - -04 1923 10",
    "-3:30 U -0330/-03 1942 12 14", "-3 U -03/-0230 1960", "-3 U -03/-02 1968",
    "-3 U -03/-0230 1970", "-3 U -03/-02 1974", "-3 U -03/-0130 1974 3 10",
    "-3 U -03/-0230 1974 12 22", "-3 U -03/-02"]),
  ("America/New_York", [
    "-4:56:2 - LMT 1883 11 18 17u", "-5 u E%sT 1920", "-5 NY E%sT 1942", "-5 u E%sT 1946",
    "-5 NY E%sT 1967", "-5 u E%sT"]),
  ("America/Nome", [
    "12:58:22 - LMT 1867 10 19 13:29:35", "-11:1:38 - LMT 1900 8 20 12", "-11 - NST 1942",
    "-11 u N%sT 1946", "-11 - NST 1967 4", "-11 - BST 1969", "-11 u B%sT 1983 10 30 2",
    "-9 u Y%sT 1983 11 30", "-9 u AK%sT"]),
  ("America/Noronha", [
    "-2:9:40 - LMT 1914", "-2 B -02/-01 1990 9 17", "-2 - -02 1999 9 30",
    "-2 B -02/-01 2000 10 15", "-2 - -02 2001 9 13", "-2 B -02/-01 2002 10", "-2 - -02"]),
  ("America/North_Dakota/Beulah", [
    "-6:47:7 - LMT 1883 11 18 19u", "-7 u M%sT 2010 11 7 2", "-6 u C%sT"]),
  ("America/North_Dakota/Center", [
    "-6:45:12 - LMT 1883 11 18 19u", "-7 u M%sT 1992 10 25 2", "-6 u C%sT"]),
  ("America/North_Dakota/New_Salem", [
    "-6:45:39 - LMT 1883 11 18 19u", "-7 u M%sT 2003 10 26 2", "-6 u C%sT"]),
  ("America/Nuuk", [
    "-3:26:56 - LMT 1916 7 28", "-3 - -03 1980 4 6 2", "-3 E -03/-02 2023 3 26 1u",
    "-2 - -02 2023 10 29 1u", "-2 E -02/-01"]),
  ("America/Ojinaga", [
    "-6:57:40 - LMT 1922 1 1 7u", "-7 - MST 1927 6 10", "-6 - CST 1930 11 15",
    "-7 m M%sT 1932 4", "-6 - CST 1996", "-6 m C%sT 1998", "-6 - CST 1998 4 Sun>=1 3",
    "-7 m M%sT 2010", "-7 u M%sT 2022 10 30 2", "-6 - CST 2022 11 30", "-6 u C%sT"]),
  ("America/Panama", ["-5:18:8 - LMT 1890", "-5:19:36 - CMT 1908 4 22", "-5 - EST"]),
  ("America/Paramaribo", [
    "-3:40:40 - LMT 1911", "-3:40:52 - PMT 1935", "-3:40:36 - PMT 1945 10",
    "-3:30 - -0330 1984 10", "-3 - -03"]),
  ("America/Phoenix", [
    "-7:28:18 - LMT 1883 11 18 19u", "-7 u M%sT 1944 1 1 0:1", "-7 - MST 1944 4 1 0:1",
    "-7 u M%sT 1944 10 1 0:1", "-7 - MST 1967", "-7 u M%sT 1968 3 21", "-7 - MST"]),
  ("America/Port-au-Prince", ["-4:49:20 - LMT 1890", "-4:49 - PPMT 1917 1 24 12", "-5 HT E%sT"]),
  ("America/Porto_Velho", ["-4:15:36 - LMT 1914", "-4 B -04/-03 1988 9 12", "-4 - -04"]),
  ("America/Puerto_Rico", [
    "-4:24:25 - LMT 1899 3 28 12", "-4 - AST 1942 5 3", "-4 u A%sT 1946", "-4 - AST"]),
  ("America/Punta_Arenas", [
    "-4:43:40 - LMT 1890", "-4:42:45 - SMT 1910 1 10", "-5 - -05 1916 7",
    "-4:42:45 - SMT 1918 9 10", "-4 - -04 1919 7", "-4:42:45 - SMT 1927 9",
    "-5 x -05/-04 1932 9", "-4 - -04 1942 6", "-5 - -05 1942 8", "-4 - -04 1946 8 28 24",
    "-5 1 -04 1947 3 31 24", "-5 - -05 1947 5 21 23", "-4 x -04/-03 2016 12 4", "-3 - -03"]),
  ("America/Rankin_Inlet", [
    "0 - -00 1957", "-6 Y C%sT 2000 10 29 2", "-5 - EST 2001 4 1 3", "-6 C C%sT"]),
  ("America/Recife", [
    "-2:19:36 - LMT 1914", "-3 B -03/-02 1990 9 17", "-3 - -03 1999 9 30",
    "-3 B -03/-02 2000 10 15", "-3 - -03 2001 9 13", "-3 B -03/-02 2002 10", "-3 - -03"]),
  ("America/Regina", ["-6:58:36 - LMT 1905 9", "-7 r M%sT 1960 4 last-Sun 2", "-6 - CST"]),
  ("America/Resolute", [
    "0 - -00 1947 8 31", "-6 Y C%sT 2000 10 29 2", "-5 - EST 2001 4 1 3",
    "-6 C C%sT 2006 10 29 2", "-5 - EST 2007 3 11 3", "-6 C C%sT"]),
  ("America/Rio_Branco", [
    "-4:31:12 - LMT 1914", "-5 B -05/-04 1988 9 12", "-5 - -05 2008 6 24",
    "-4 - -04 2013 11 10", "-5 - -05"]),
  ("America/Santarem", [
    "-3:38:48 - LMT 1914", "-4 B -04/-03 1988 9 12", "-4 - -04 2008 6 24", "-3 - -03"]),
  ("America/Santiago", [
    "-4:42:45 - LMT 1890", "-4:42:45 - SMT 1910 1 10", "-5 - -05 1916 7",
    "-4:42:45 - SMT 1918 9 10", "-4 - -04 1919 7", "-4:42:45 - SMT 1927 9",
    "-5 x -05/-04 1932 9", "-4 - -04 1942 6", "-5 - -05 1942 8", "-4 - -04 1946 7 14 24",
    "-4 1 -03 1946 8 28 24", "-5 1 -04 1947 3 31 24", "-5 - -05 1947 5 21 23", "-4 x -04/-03"]),
  ("America/Santo_Domingo", [
    "-4:39:36 - LMT 1890", "-4:40 - SDMT 1933 4 1 12", "-5 DO %s 1974 10 27",
    "-4 - AST 2000 10 29 2", "-5 u E%sT 2000 12 3 1", "-4 - AST"]),
  ("America/Sao_Paulo", [
    "-3:6:28 - LMT 1914", "-3 B -03/-02 1963 10 23", "-3 1 -02 1964", "-3 B -03/-02"]),
  ("America/Scoresbysund", [
    "-1:27:52 - LMT 1916 7 28", "-2 - -02 1980 4 6 2", "-2 c -02/-01 1981 3 29",
    "-1 E -01/+00 2024 3 31", "-2 E -02/-01"]),
  ("America/Sitka", [
    "14:58:47 - LMT 1867 10 19 15:30", "-9:1:13 - LMT 1900 8 20 12", "-8 - PST 1942",
    "-8 u P%sT 1946", "-8 - PST 1969", "-8 u P%sT 1983 10 30 2", "-9 u Y%sT 1983 11 30",
    "-9 u AK%sT"]),
  ("America/St_Johns", [
    "-3:30:52 - LMT 1884", "-3:30:52 j N%sT 1918", "-3:30:52 C N%sT 1919",
    "-3:30:52 j N%sT 1935 3 30", "-3:30 j N%sT 1942 5 11", "-3:30 C N%sT 1946",
    "-3:30 j N%sT 2011 11", "-3:30 C N%sT"]),
  ("America/Swift_Current", [
    "-7:11:20 - LMT 1905 9", "-7 C M%sT 1946 4 last-Sun 2", "-7 r M%sT 1950",
    "-7 Sw M%sT 1972 4 last-Sun 2", "-6 - CST"]),
  ("America/Tegucigalpa", ["-5:48:52 - LMT 1921 4", "-6 HN C%sT"]),
  ("America/Thule", ["-4:35:8 - LMT 1916 7 28", "-4 Th A%sT"]),
  ("America/Tijuana", [
    "-7:48:4 - LMT 1922 1 1 7u", "-7 - MST 1924", "-8 - PST 1927 6 10", "-7 - MST 1930 11 15",
    "-8 - PST 1931 4", "-8 1 PDT 1931 9 30", "-8 - PST 1942 4 24", "-8 1 PWT 1945 8 14 23u",
    "-8 1 PPT 1945 11 15", "-8 - PST 1948 4 5", "-8 1 PDT 1949 1 14", "-8 - PST 1950 5",
    "-8 1 PDT 1950 9 24", "-8 - PST 1951 4 29 2", "-8 1 PDT 1951 9 30 2",
    "-8 - PST 1952 4 27 2", "-8 1 PDT 1952 9 28 2", "-8 - PST 1954", "-8 CA P%sT 1961",
    "-8 - PST 1976", "-8 u P%sT 1996", "-8 m P%sT 2001", "-8 u P%sT 2002 2 20",
    "-8 m P%sT 2010", "-8 u P%sT"]),
  ("America/Toronto", [
    "-5:17:32 - LMT 1895", "-5 C E%sT 1919", "-5 t E%sT 1942 2 9 2s", "-5 C E%sT 1946",
    "-5 t E%sT 1974", "-5 C E%sT"]),
  ("America/Vancouver", ["-8:12:28 - LMT 1884", "-8 Va P%sT 1987", "-8 C P%sT"]),
  ("America/Whitehorse", [
    "-9:0:12 - LMT 1900 8 20", "-9 Y Y%sT 1965", "-9 Yu Y%sT 1966 2 27", "-8 - PST 1980",
    "-8 C P%sT 2020 11", "-7 - MST"]),
  ("America/Winnipeg", ["-6:28:36 - LMT 1887 7 16", "-6 W C%sT 2006", "-6 C C%sT"]),
  ("America/Yakutat", [
    "14:41:5 - LMT 1867 10 19 15:12:18", "-9:18:55 - LMT 1900 8 20 12", "-9 - YST 1942",
    "-9 u Y%sT 1946", "-9 - YST 1969", "-9 u Y%sT 1983 11 30", "-9 u AK%sT"])]

def antarcticaTable : List (String × List String) := [
  ("Antarctica/Casey", [
    "0 - -00 1969", "8 - +08 2009 10 18 2", "11 - +11 2010 3 5 2", "8 - +08 2011 10 28 2",
    "11 - +11 2012 2 21 17u", "8 - +08 2016 10 22", "11 - +11 2018 3 11 4",
    "8 - +08 2018 10 7 4", "11 - +11 2019 3 17 3", "8 - +08 2019 10 4 3", "11 - +11 2020 3 8 3",
    "8 - +08 2020 10 4 0:1", "11 - +11 2021 3 14", "8 - +08 2021 10 3 0:1",
    "11 - +11 2022 3 13", "8 - +08 2022 10 2 0:1", "11 - +11 2023 3 9 3", "8 - +08"]),
  ("Antarctica/Davis", [
    "0 - -00 1957 1 13", "7 - +07 1964 11", "0 - -00 1969 2", "7 - +07 2009 10 18 2",
    "5 - +05 2010 3 10 20u", "7 - +07 2011 10 28 2", "5 - +05 2012 2 21 20u", "7 - +07"]),
  ("Antarctica/Macquarie", [
    "0 - -00 1899 11", "10 - AEST 1916 10 1 2", "10 1 AEDT 1917 2", "10 AU AE%sT 1919 4 1 0s",
    "0 - -00 1948 3 25", "10 AU AE%sT 1967", "10 AT AE%sT 2010", "10 1 AEDT 2011", "10 AT AE%sT"]),
  ("Antarctica/Mawson", ["0 - -00 1954 2 13", "6 - +06 2009 10 18 2", "5 - +05"]),
  ("Antarctica/Palmer", [
    "0 - -00 1965", "-4 A -04/-03 1969 10 5", "-3 A -03/-02 1982 5", "-4 x -04/-03 2016 12 4",
    "-3 - -03"]),
  ("Antarctica/Rothera", ["0 - -00 1976 12", "-3 - -03"]),
  ("Antarctica/Troll", ["0 - -00 2005 2 12", "0 Tr %s"]),
  ("Antarctica/Vostok", [
    "0 - -00 1957 12 16", "7 - +07 1994 2", "0 - -00 1994 11", "7 - +07 2023 12 18 2", "5 - +05"])]

def asiaTable : List (String × List String) := [
  ("Asia/Almaty", [
    "5:7:48 - LMT 1924 5 2", "5 - +05 1930 6 21", "6 R +06/+07 1991 3 31 2s",
    "5 R +05/+06 1992 1 19 2s", "6 R +06/+07 2004 10 31 2s", "6 - +06 2024 3", "5 - +05"]),
  ("Asia/Amman", ["2:23:44 - LMT 1931", "2 J EE%sT 2022 10 28 0s", "3 - +03"]),
  ("Asia/Anadyr", [
    "11:49:56 - LMT 1924 5 2", "12 - +12 1930 6 21", "13 R +13/+14 1982 4 1 0s",
    "12 R +12/+13 1991 3 31 2s", "11 R +11/+12 1992 1 19 2s", "12 R +12/+13 2010 3 28 2s",
    "11 R +11/+12 2011 3 27 2s", "12 - +12"]),
  ("Asia/Aqtau", [
    "3:21:4 - LMT 1924 5 2", "4 - +04 1930 6 21", "5 - +05 1981 10", "6 - +06 1982 4",
    "5 R +05/+06 1991 3 31 2s", "4 R +04/+05 1992 1 19 2s", "5 R +05/+06 1994 9 25 2s",
    "4 R +04/+05 2004 10 31 2s", "5 - +05"]),
  ("Asia/Aqtobe", [
    "3:48:40 - LMT 1924 5 2", "4 - +04 1930 6 21", "5 - +05 1981 4", "5 1 +06 1981 10",
    "6 - +06 1982 4", "5 R +05/+06 1991 3 31 2s", "4 R +04/+05 1992 1 19 2s",
    "5 R +05/+06 2004 10 31 2s", "5 - +05"]),
  ("Asia/Ashgabat", [
    "3:53:32 - LMT 1924 5 2", "4 - +04 1930 6 21", "5 R +05/+06 1991 3 31 2",
    "4 R +04/+05 1992 1 19 2", "5 - +05"]),
  ("Asia/Atyrau", [
    "3:27:44 - LMT 1924 5 2", "3 - +03 1930 6 21", "5 - +05 1981 10", "6 - +06 1982 4",
    "5 R +05/+06 1991 3 31 2s", "4 R +04/+05 1992 1 19 2s", "5 R +05/+06 1999 3 28 2s",
    "4 R +04/+05 2004 10 31 2s", "5 - +05"]),
  ("Asia/Baghdad", [
    "2:57:40 - LMT 1890", "2:57:36 - BMT 1918", "3 - +03 1982 5", "3 IQ +03/+04"]),
  ("Asia/Baku", [
    "3:19:24 - LMT 1924 5 2", "3 - +03 1957 3", "4 R +04/+05 1991 3 31 2s",
    "3 R +03/+04 1992 9 last-Sun 2s", "4 - +04 1996", "4 E +04/+05 1997", "4 AZ +04/+05"]),
  ("Asia/Bangkok", ["6:42:4 - LMT 1880", "6:42:4 - BMT 1920 4", "7 - +07"]),
  ("Asia/Barnaul", [
    "5:35 - LMT 1919 12 10", "6 - +06 1930 6 21", "7 R +07/+08 1991 3 31 2s",
    "6 R +06/+07 1992 1 19 2s", "7 R +07/+08 1995 5 28", "6 R +06/+07 2011 3 27 2s",
    "7 - +07 2014 10 26 2s", "6 - +06 2016 3 27 2s", "7 - +07"]),
  ("Asia/Beirut", ["2:22 - LMT 1880", "2 l EE%sT"]),
  ("Asia/Bishkek", [
    "4:58:24 - LMT 1924 5 2", "5 - +05 1930 6 21", "6 R +06/+07 1991 3 31 2s",
    "5 R +05/+06 1991 8 31 2", "5 KG +05/+06 2005 8 12", "6 - +06"]),
  ("Asia/Chita", [
    "7:33:52 - LMT 1919 12 15", "8 - +08 1930 6 21", "9 R +09/+10 1991 3 31 2s",
    "8 R +08/+09 1992 1 19 2s", "9 R +09/+10 2011 3 27 2s", "10 - +10 2014 10 26 2s",
    "8 - +08 2016 3 27 2", "9 - +09"]),
  ("Asia/Colombo", [
    "5:19:24 - LMT 1880", "5:19:32 - MMT 1906", "5:30 - +0530 1942 1 5", "5:30 0:30 +06 1942 9",
    "5:30 1 +0630 1945 10 16 2", "5:30 - +0530 1996 5 25", "6:30 - +0630 1996 10 26 0:30",
    "6 - +06 2006 4 15 0:30", "5:30 - +0530"]),
  ("Asia/Damascus", ["2:25:12 - LMT 1920", "2 S EE%sT 2022 10 28", "3 - +03"]),
  ("Asia/Dhaka", [
    "6:1:40 - LMT 1890", "5:53:20 - HMT 1941 10", "6:30 - +0630 1942 5 15",
    "5:30 - +0530 1942 9", "6:30 - +0630 1951 9 30", "6 - +06 2009", "6 BD +06/+07"]),
  ("Asia/Dili", [
    "8:22:20 - LMT 1911 12 31 16u", "8 - +08 1942 2 21 23", "9 - +09 1976 5 3",
    "8 - +08 2000 9 17", "9 - +09"]),
  ("Asia/Dubai", ["3:41:12 - LMT 1920", "4 - +04"]),
  ("Asia/Dushanbe", [
    "4:35:12 - LMT 1924 5 2", "5 - +05 1930 6 21", "6 R +06/+07 1991 3 31 2s",
    "5 1 +06 1991 9 9 2s", "5 - +05"]),
  ("Asia/Famagusta", [
    "2:15:48 - LMT 1921 11 14", "2 CY EE%sT 1998 9", "2 E EE%sT 2016 9 8",
    "3 - +03 2017 10 29 1u", "2 E EE%sT"]),
  ("Asia/Gaza", [
    "2:17:52 - LMT 1900 10", "2 Z EET/EEST 1948 5 15", "2 K EE%sT 1967 6 5", "2 Z I%sT 1996",
    "2 J EE%sT 1999", "2 P EE%sT 2008 8 29", "2 - EET 2008 9", "2 P EE%sT 2010",
    "2 - EET 2010 3 27 0:1", "2 P EE%sT 2011 8", "2 - EET 2012", "2 P EE%sT"]),
  ("Asia/Hebron", [
    "2:20:23 - LMT 1900 10", "2 Z EET/EEST 1948 5 15", "2 K EE%sT 1967 6 5", "2 Z I%sT 1996",
    "2 J EE%sT 1999", "2 P EE%sT"]),
  ("Asia/Ho_Chi_Minh", [
    "7:6:30 - LMT 1906 7", "7:6:30 - PLMT 1911 5", "7 - +07 1942 12 31 23",
    "8 - +08 1945 3 14 23", "9 - +09 1945 9 1 24", "7 - +07 1947 4", "8 - +08 1955 7 1 1",
    "7 - +07 1959 12 31 23", "8 - +08 1975 6 13", "7 - +07"]),
  ("Asia/Hong_Kong", [
    "7:36:42 - LMT 1904 10 29 17u", "8 - HKT 1941 6 15 3", "8 1 HKST 1941 10 1 4",
    "8 0:30 HKWT 1941 12 25", "9 - JST 1945 11 18 2", "8 HK HK%sT"]),
  ("Asia/Hovd", ["6:6:36 - LMT 1905 8", "6 - +06 1978", "7 X +07/+08"]),
  ("Asia/Irkutsk", [
    "6:57:5 - LMT 1880", "6:57:5 - IMT 1920 1 25", "7 - +07 1930 6 21",
    "8 R +08/+09 1991 3 31 2s", "7 R +07/+08 1992 1 19 2s", "8 R +08/+09 2011 3 27 2s",
    "9 - +09 2014 10 26 2s", "8 - +08"]),
  ("Asia/Jakarta", [
    "7:7:12 - LMT 1867 8 10", "7:7:12 - BMT 1923 12 31 16:40u", "7:20 - +0720 1932 11",
    "7:30 - +0730 1942 3 23", "9 - +09 1945 9 23", "7:30 - +0730 1948 5", "8 - +08 1950 5",
    "7:30 - +0730 1964", "7 - WIB"]),
  ("Asia/Jayapura", ["9:22:48 - LMT 1932 11", "9 - +09 1944 9", "9:30 - +0930 1964", "9 - WIT"]),
  ("Asia/Jerusalem", ["2:20:54 - LMT 1880", "2:20:40 - JMT 1918", "2 Z I%sT"]),
  ("Asia/Kabul", ["4:36:48 - LMT 1890", "4 - +04 1945", "4:30 - +0430"]),
  ("Asia/Kamchatka", [
    "10:34:36 - LMT 1922 11 10", "11 - +11 1930 6 21", "12 R +12/+13 1991 3 31 2s",
    "11 R +11/+12 1992 1 19 2s", "12 R +12/+13 2010 3 28 2s", "11 R +11/+12 2011 3 27 2s",
    "12 - +12"]),
  ("Asia/Karachi", [
    "4:28:12 - LMT 1907", "5:30 - +0530 1942 9", "5:30 1 +0630 1945 10 15",
    "5:30 - +0530 1951 9 30", "5 - +05 1971 3 26", "5 PK PK%sT"]),
  ("Asia/Kathmandu", ["5:41:16 - LMT 1920", "5:30 - +0530 1986", "5:45 - +0545"]),
  ("Asia/Khandyga", [
    "9:2:13 - LMT 1919 12 15", "8 - +08 1930 6 21", "9 R +09/+10 1991 3 31 2s",
    "8 R +08/+09 1992 1 19 2s", "9 R +09/+10 2004", "10 R +10/+11 2011 3 27 2s",
    "11 - +11 2011 9 13 0s", "10 - +10 2014 10 26 2s", "9 - +09"]),
  ("Asia/Kolkata", [
    "5:53:28 - LMT 1854 6 28", "5:53:20 - HMT 1870", "5:21:10 - MMT 1906", "5:30 - IST 1941 10",
    "5:30 1 +0630 1942 5 15", "5:30 - IST 1942 9", "5:30 1 +0630 1945 10 15", "5:30 - IST"]),
  ("Asia/Krasnoyarsk", [
    "6:11:26 - LMT 1920 1 6", "6 - +06 1930 6 21", "7 R +07/+08 1991 3 31 2s",
    "6 R +06/+07 1992 1 19 2s", "7 R +07/+08 2011 3 27 2s", "8 - +08 2014 10 26 2s", "7 - +07"]),
  ("Asia/Kuching", [
    "7:21:20 - LMT 1926 3", "7:30 - +0730 1933", "8 NB +08/+0820 1942 2 16",
    "9 - +09 1945 9 12", "8 - +08"]),
  ("Asia/Macau", [
    "7:34:10 - LMT 1904 10 30", "8 - CST 1941 12 21 23", "9 _ +09/+10 1945 9 30 24", "8 _ C%sT"]),
  ("Asia/Magadan", [
    "10:3:12 - LMT 1924 5 2", "10 - +10 1930 6 21", "11 R +11/+12 1991 3 31 2s",
    "10 R +10/+11 1992 1 19 2s", "11 R +11/+12 2011 3 27 2s", "12 - +12 2014 10 26 2s",
    "10 - +10 2016 4 24 2s", "11 - +11"]),
  ("Asia/Makassar", [
    "7:57:36 - LMT 1920", "7:57:36 - MMT 1932 11", "8 - +08 1942 2 9", "9 - +09 1945 9 23",
    "8 - WITA"]),
  ("Asia/Manila", [
    "-15:56:8 - LMT 1844 12 31", "8:3:52 - LMT 1899 9 6 4u", "8 PH P%sT 1942 2 11 24",
    "9 - JST 1945 3 4", "8 PH P%sT"]),
  ("Asia/Nicosia", ["2:13:28 - LMT 1921 11 14", "2 CY EE%sT 1998 9", "2 E EE%sT"]),
  ("Asia/Novokuznetsk", [
    "5:48:48 - LMT 1924 5", "6 - +06 1930 6 21", "7 R +07/+08 1991 3 31 2s",
    "6 R +06/+07 1992 1 19 2s", "7 R +07/+08 2010 3 28 2s", "6 R +06/+07 2011 3 27 2s",
    "7 - +07"]),
  ("Asia/Novosibirsk", [
    "5:31:40 - LMT 1919 12 14 6", "6 - +06 1930 6 21", "7 R +07/+08 1991 3 31 2s",
    "6 R +06/+07 1992 1 19 2s", "7 R +07/+08 1993 5 23", "6 R +06/+07 2011 3 27 2s",
    "7 - +07 2014 10 26 2s", "6 - +06 2016 7 24 2s", "7 - +07"]),
  ("Asia/Omsk", [
    "4:53:30 - LMT 1919 11 14", "5 - +05 1930 6 21", "6 R +06/+07 1991 3 31 2s",
    "5 R +05/+06 1992 1 19 2s", "6 R +06/+07 2011 3 27 2s", "7 - +07 2014 10 26 2s", "6 - +06"]),
  ("Asia/Oral", [
    "3:25:24 - LMT 1924 5 2", "3 - +03 1930 6 21", "5 - +05 1981 4", "5 1 +06 1981 10",
    "6 - +06 1982 4", "5 R +05/+06 1989 3 26 2s", "4 R +04/+05 1992 1 19 2s",
    "5 R +05/+06 1992 3 29 2s", "4 R +04/+05 2004 10 31 2s", "5 - +05"]),
  ("Asia/Pontianak", [
    "7:17:20 - LMT 1908 5", "7:17:20 - PMT 1932 11", "7:30 - +0730 1942 1 29",
    "9 - +09 1945 9 23", "7:30 - +0730 1948 5", "8 - +08 1950 5", "7:30 - +0730 1964",
    "8 - WITA 1988", "7 - WIB"]),
  ("Asia/Pyongyang", [
    "8:23 - LMT 1908 4", "8:30 - KST 1912", "9 - JST 1945 8 24", "9 - KST 2015 8 15",
    "8:30 - KST 2018 5 4 23:30", "9 - KST"]),
  ("Asia/Qatar", ["3:26:8 - LMT 1920", "4 - +04 1972 6", "3 - +03"]),
  ("Asia/Qostanay", [
    "4:14:28 - LMT 1924 5 2", "4 - +04 1930 6 21", "5 - +05 1981 4", "5 1 +06 1981 10",
    "6 - +06 1982 4", "5 R +05/+06 1991 3 31 2s", "4 R +04/+05 1992 1 19 2s",
    "5 R +05/+06 2004 10 31 2s", "6 - +06 2024 3", "5 - +05"]),
  ("Asia/Qyzylorda", [
    "4:21:52 - LMT 1924 5 2", "4 - +04 1930 6 21", "5 - +05 1981 4", "5 1 +06 1981 10",
    "6 - +06 1982 4", "5 R +05/+06 1991 3 31 2s", "4 R +04/+05 1991 9 29 2s",
    "5 R +05/+06 1992 1 19 2s", "6 R +06/+07 1992 3 29 2s", "5 R +05/+06 2004 10 31 2s",
    "6 - +06 2018 12 21", "5 - +05"]),
  ("Asia/Riyadh", ["3:6:52 - LMT 1947 3 14", "3 - +03"]),
  ("Asia/Sakhalin", [
    "9:30:48 - LMT 1905 8 23", "9 - +09 1945 8 25", "11 R +11/+12 1991 3 31 2s",
    "10 R +10/+11 1992 1 19 2s", "11 R +11/+12 1997 3 last-Sun 2s", "10 R +10/+11 2011 3 27 2s",
    "11 - +11 2014 10 26 2s", "10 - +10 2016 3 27 2s", "11 - +11"]),
  ("Asia/Samarkand", [
    "4:27:53 - LMT 1924 5 2", "4 - +04 1930 6 21", "5 - +05 1981 4", "5 1 +06 1981 10",
    "6 - +06 1982 4", "5 R +05/+06 1992", "5 - +05"]),
  ("Asia/Seoul", [
    "8:27:52 - LMT 1908 4", "8:30 - KST 1912", "9 - JST 1945 9 8", "9 KR K%sT 1954 3 21",
    "8:30 KR K%sT 1961 8 10", "9 KR K%sT"]),
  ("Asia/Shanghai", ["8:5:43 - LMT 1901", "8 Sh C%sT 1949 5 28", "8 CN C%sT"]),
  ("Asia/Singapore", [
    "6:55:25 - LMT 1901", "6:55:25 - SMT 1905 6", "7 - +07 1933", "7 0:20 +0720 1936",
    "7:20 - +0720 1941 9", "7:30 - +0730 1942 2 16", "9 - +09 1945 9 12",
    "7:30 - +0730 1981 12 31 16u", "8 - +08"]),
  ("Asia/Srednekolymsk", [
    "10:14:52 - LMT 1924 5 2", "10 - +10 1930 6 21", "11 R +11/+12 1991 3 31 2s",
    "10 R +10/+11 1992 1 19 2s", "11 R +11/+12 2011 3 27 2s", "12 - +12 2014 10 26 2s",
    "11 - +11"]),
  ("Asia/Taipei", ["8:6 - LMT 1896", "8 - CST 1937 10", "9 - JST 1945 9 21 1", "8 f C%sT"]),
  ("Asia/Tashkent", [
    "4:37:11 - LMT 1924 5 2", "5 - +05 1930 6 21", "6 R +06/+07 1991 3 31 2",
    "5 R +05/+06 1992", "5 - +05"]),
  ("Asia/Tbilisi", [
    "2:59:11 - LMT 1880", "2:59:11 - TBMT 1924 5 2", "3 - +03 1957 3",
    "4 R +04/+05 1991 3 31 2s", "3 R +03/+04 1992", "3 e +03/+04 1994 9 last-Sun",
    "4 e +04/+05 1996 10 last-Sun", "4 1 +05 1997 3 last-Sun", "4 e +04/+05 2004 6 27",
    "3 R +03/+04 2005 3 last-Sun 2", "4 - +04"]),
  ("Asia/Tehran", [
    "3:25:44 - LMT 1916", "3:25:44 - TMT 1935 6 13", "3:30 i +0330/+0430 1977 10 20 24",
    "4 i +04/+05 1978 11 10 24", "3:30 i +0330/+0430"]),
  ("Asia/Thimphu", ["5:58:36 - LMT 1947 8 15", "5:30 - +0530 1987 10", "6 - +06"]),
  ("Asia/Tokyo", ["9:18:59 - LMT 1887 12 31 15u", "9 JP J%sT"]),
  ("Asia/Tomsk", [
    "5:39:51 - LMT 1919 12 22", "6 - +06 1930 6 21", "7 R +07/+08 1991 3 31 2s",
    "6 R +06/+07 1992 1 19 2s", "7 R +07/+08 2002 5 1 3", "6 R +06/+07 2011 3 27 2s",
    "7 - +07 2014 10 26 2s", "6 - +06 2016 5 29 2s", "7 - +07"]),
  ("Asia/Ulaanbaatar", ["7:7:32 - LMT 1905 8", "7 - +07 1978", "8 X +08/+09"]),
  ("Asia/Urumqi", ["5:50:20 - LMT 1928", "6 - +06"]),
  ("Asia/Ust-Nera", [
    "9:32:54 - LMT 1919 12 15", "8 - +08 1930 6 21", "9 R +09/+10 1981 4",
    "11 R +11/+12 1991 3 31 2s", "10 R +10/+11 1992 1 19 2s", "11 R +11/+12 2011 3 27 2s",
    "12 - +12 2011 9 13 0s", "11 - +11 2014 10 26 2s", "10 - +10"]),
  ("Asia/Vladivostok", [
    "8:47:31 - LMT 1922 11 15", "9 - +09 1930 6 21", "10 R +10/+11 1991 3 31 2s",
    "9 R +09/+10 1992 1 19 2s", "10 R +10/+11 2011 3 27 2s", "11 - +11 2014 10 26 2s",
    "10 - +10"]),
  ("Asia/Yakutsk", [
    "8:38:58 - LMT 1919 12 15", "8 - +08 1930 6 21", "9 R +09/+10 1991 3 31 2s",
    "8 R +08/+09 1992 1 19 2s", "9 R +09/+10 2011 3 27 2s", "10 - +10 2014 10 26 2s", "9 - +09"]),
  ("Asia/Yangon", [
    "6:24:47 - LMT 1880", "6:24:47 - RMT 1920", "6:30 - +0630 1942 5", "9 - +09 1945 5 3",
    "6:30 - +0630"]),
  ("Asia/Yekaterinburg", [
    "4:2:33 - LMT 1916 7 3", "3:45:5 - PMT 1919 7 15 4", "4 - +04 1930 6 21",
    "5 R +05/+06 1991 3 31 2s", "4 R +04/+05 1992 1 19 2s", "5 R +05/+06 2011 3 27 2s",
    "6 - +06 2014 10 26 2s", "5 - +05"]),
  ("Asia/Yerevan", [
    "2:58 - LMT 1924 5 2", "3 - +03 1957 3", "4 R +04/+05 1991 3 31 2s",
    "3 R +03/+04 1995 9 24 2s", "4 - +04 1997", "4 R +04/+05 2011", "4 AM +04/+05"])]

def atlanticTable : List (String × List String) := [
  ("Atlantic/Azores", [
    "-1:42:40 - LMT 1884", "-1:54:32 - HMT 1912 1 1 2u", "-2 p -02/-01 1942 4 25 22s",
    "-2 p +00 1942 8 15 22s", "-2 p -02/-01 1943 4 17 22s", "-2 p +00 1943 8 28 22s",
    "-2 p -02/-01 1944 4 22 22s", "-2 p +00 1944 8 26 22s", "-2 p -02/-01 1945 4 21 22s",
    "-2 p +00 1945 8 25 22s", "-2 p -02/-01 1966 10 2 2s", "-1 - -01 1982 3 28 0s",
    "-1 p -01/+00 1986", "-1 E -01/+00 1992 12 27 1s", "0 E WE%sT 1993 6 17 1u", "-1 E -01/+00"]),
  ("Atlantic/Bermuda", [
    "-4:19:18 - LMT 1890", "-4:19:18 Be BMT/BST 1930 1 1 2", "-4 Be A%sT 1974 4 28 2",
    "-4 C A%sT 1976", "-4 u A%sT"]),
  ("Atlantic/Canary", [
    "-1:1:36 - LMT 1922 3", "-1 - -01 1946 9 30 1", "0 - WET 1980 4 6 0s",
    "0 1 WEST 1980 9 28 1u", "0 E WE%sT"]),
  ("Atlantic/Cape_Verde", [
    "-1:34:4 - LMT 1912 1 1 2u", "-2 - -02 1942 9", "-2 1 -01 1945 10 15",
    "-2 - -02 1975 11 25 2", "-1 - -01"]),
  ("Atlantic/Faroe", ["-0:27:4 - LMT 1908 1 11", "0 - WET 1981", "0 E WE%sT"]),
  ("Atlantic/Madeira", [
    "-1:7:36 - LMT 1884", "-1:7:36 - FMT 1912 1 1 1u", "-1 p -01/+00 1942 4 25 22s",
    "-1 p +01 1942 8 15 22s", "-1 p -01/+00 1943 4 17 22s", "-1 p +01 1943 8 28 22s",
    "-1 p -01/+00 1944 4 22 22s", "-1 p +01 1944 8 26 22s", "-1 p -01/+00 1945 4 21 22s",
    "-1 p +01 1945 8 25 22s", "-1 p -01/+00 1966 10 2 2s", "0 - WET 1982 4 4",
    "0 p WE%sT 1986 7 31", "0 E WE%sT"]),
  ("Atlantic/South_Georgia", ["-2:26:8 - LMT 1890", "-2 - -02"]),
  ("Atlantic/Stanley", [
    "-3:51:24 - LMT 1890", "-3:51:24 - SMT 1912 3 12", "-4 FK -04/-03 1983 5",
    "-3 FK -03/-02 1985 9 15", "-4 FK -04/-03 2010 9 5 2", "-3 - -03"])]

def australiaTable : List (String × List String) := [
  ("Australia/Adelaide", [
    "9:14:20 - LMT 1895 2", "9 - ACST 1899 5", "9:30 AU AC%sT 1971", "9:30 AS AC%sT"]),
  ("Australia/Brisbane", ["10:12:8 - LMT 1895", "10 AU AE%sT 1971", "10 AQ AE%sT"]),
  ("Australia/Broken_Hill", [
    "9:25:48 - LMT 1895 2", "10 - AEST 1896 8 23", "9 - ACST 1899 5", "9:30 AU AC%sT 1971",
    "9:30 AN AC%sT 2000", "9:30 AS AC%sT"]),
  ("Australia/Darwin", ["8:43:20 - LMT 1895 2", "9 - ACST 1899 5", "9:30 AU AC%sT"]),
  ("Australia/Eucla", [
    "8:35:28 - LMT 1895 12", "8:45 AU +0845/+0945 1943 7", "8:45 AW +0845/+0945"]),
  ("Australia/Hobart", [
    "9:49:16 - LMT 1895 9", "10 AT AE%sT 1919 10 24", "10 AU AE%sT 1967", "10 AT AE%sT"]),
  ("Australia/Lindeman", [
    "9:55:56 - LMT 1895", "10 AU AE%sT 1971", "10 AQ AE%sT 1992 7", "10 Ho AE%sT"]),
  ("Australia/Lord_Howe", [
    "10:36:20 - LMT 1895 2", "10 - AEST 1981 3", "10:30 LH +1030/+1130 1985 7",
    "10:30 LH +1030/+11"]),
  ("Australia/Melbourne", ["9:39:52 - LMT 1895 2", "10 AU AE%sT 1971", "10 AV AE%sT"]),
  ("Australia/Perth", ["7:43:24 - LMT 1895 12", "8 AU AW%sT 1943 7", "8 AW AW%sT"]),
  ("Australia/Sydney", ["10:4:52 - LMT 1895 2", "10 AU AE%sT 1971", "10 AN AE%sT"])]

def etcTable : List (String × List String) := [
  ("Etc/GMT", ["0 - GMT"]),
  ("Etc/GMT+1", ["-1 - -01"]),
  ("Etc/GMT+10", ["-10 - -10"]),
  ("Etc/GMT+11", ["-11 - -11"]),
  ("Etc/GMT+12", ["-12 - -12"]),
  ("Etc/GMT+2", ["-2 - -02"]),
  ("Etc/GMT+3", ["-3 - -03"]),
  ("Etc/GMT+4", ["-4 - -04"]),
  ("Etc/GMT+5", ["-5 - -05"]),
  ("Etc/GMT+6", ["-6 - -06"]),
  ("Etc/GMT+7", ["-7 - -07"]),
  ("Etc/GMT+8", ["-8 - -08"]),
  ("Etc/GMT+9", ["-9 - -09"]),
  ("Etc/GMT-1", ["1 - +01"]),
  ("Etc/GMT-10", ["10 - +10"]),
  ("Etc/GMT-11", ["11 - +11"]),
  ("Etc/GMT-12", ["12 - +12"]),
  ("Etc/GMT-13", ["13 - +13"]),
  ("Etc/GMT-14", ["14 - +14"]),
  ("Etc/GMT-2", ["2 - +02"]),
  ("Etc/GMT-3", ["3 - +03"]),
  ("Etc/GMT-4", ["4 - +04"]),
  ("Etc/GMT-5", ["5 - +05"]),
  ("Etc/GMT-6", ["6 - +06"]),
  ("Etc/GMT-7", ["7 - +07"]),
  ("Etc/GMT-8", ["8 - +08"]),
  ("Etc/GMT-9", ["9 - +09"]),
  ("Etc/UTC", ["0 - UTC"])]

def europeTable : List (String × List String) := [
  ("Europe/Andorra", [
    "0:6:4 - LMT 1901", "0 - WET 1946 9 30", "1 - CET 1985 3 31 2", "1 E CE%sT"]),
  ("Europe/Astrakhan", [
    "3:12:12 - LMT 1924 5", "3 - +03 1930 6 21", "4 R +04/+05 1989 3 26 2s",
    "3 R +03/+04 1991 3 31 2s", "4 - +04 1992 3 29 2s", "3 R +03/+04 2011 3 27 2s",
    "4 - +04 2014 10 26 2s", "3 - +03 2016 3 27 2s", "4 - +04"]),
  ("Europe/Athens", [
    "1:34:52 - LMT 1895 9 14", "1:34:52 - AMT 1916 7 28 0:1", "2 g EE%sT 1941 4 30",
    "1 g CE%sT 1944 4 4", "2 g EE%sT 1981", "2 E EE%sT"]),
  ("Europe/Belgrade", [
    "1:22 - LMT 1884", "1 - CET 1941 4 18 23", "1 c CE%sT 1945", "1 - CET 1945 5 8 2s",
    "1 1 CEST 1945 9 16 2s", "1 - CET 1982 11 27", "1 E CE%sT"]),
  ("Europe/Berlin", [
    "0:53:28 - LMT 1893 4", "1 c CE%sT 1945 5 24 2", "1 So CE%sT 1946", "1 DE CE%sT 1980",
    "1 E CE%sT"]),
  ("Europe/Brussels", [
    "0:17:30 - LMT 1880", "0:17:30 - BMT 1892 5 1 0:17:30", "0 - WET 1914 11 8",
    "1 - CET 1916 5", "1 c CE%sT 1918 11 11 11u", "0 b WE%sT 1940 5 20 2s",
    "1 c CE%sT 1944 9 3", "1 b CE%sT 1977", "1 E CE%sT"]),
  ("Europe/Bucharest", [
    "1:44:24 - LMT 1891 10", "1:44:24 - BMT 1931 7 24", "2 z EE%sT 1981 3 29 2s",
    "2 c EE%sT 1991", "2 z EE%sT 1994", "2 e EE%sT 1997", "2 E EE%sT"]),
  ("Europe/Budapest", [
    "1:16:20 - LMT 1890 11", "1 c CE%sT 1918", "1 h CE%sT 1941 4 7 23", "1 c CE%sT 1945",
    "1 h CE%sT 1984", "1 E CE%sT"]),
  ("Europe/Chisinau", [
    "1:55:20 - LMT 1880", "1:55 - CMT 1918 2 15", "1:44:24 - BMT 1931 7 24",
    "2 z EE%sT 1940 8 15", "2 1 EEST 1941 7 17", "1 c CE%sT 1944 8 24",
    "3 R MSK/MSD 1990 5 6 2", "2 R EE%sT 1992", "2 e EE%sT 1997", "2 MD EE%sT"]),
  ("Europe/Dublin", [
    "-0:25:21 - LMT 1880 8 2", "-0:25:21 - DMT 1916 5 21 2s", "-0:25:21 1 IST 1916 10 1 2s",
    "0 G %s 1921 12 6", "0 G GMT/IST 1940 2 25 2s", "0 1 IST 1946 10 6 2s",
    "0 - GMT 1947 3 16 2s", "0 1 IST 1947 11 2 2s", "0 - GMT 1948 4 18 2s",
    "0 G GMT/IST 1968 10 27", "1 - IST 1971 10 31 2u", "0 G GMT/IST 1996", "0 E GMT/IST"]),
  ("Europe/Gibraltar", [
    "-0:21:24 - LMT 1880 8 2", "0 G %s 1957 4 14 2", "1 - CET 1982", "1 E CE%sT"]),
  ("Europe/Helsinki", [
    "1:39:49 - LMT 1878 5 31", "1:39:49 - HMT 1921 5", "2 FI EE%sT 1983", "2 E EE%sT"]),
  ("Europe/Istanbul", [
    "1:55:52 - LMT 1880", "1:56:56 - IMT 1910 10", "2 T EE%sT 1978 6 29",
    "3 T +03/+04 1984 11 1 2", "2 T EE%sT 2007", "2 E EE%sT 2011 3 27 1u",
    "2 - EET 2011 3 28 1u", "2 E EE%sT 2014 3 30 1u", "2 - EET 2014 3 31 1u",
    "2 E EE%sT 2015 10 25 1u", "2 1 EEST 2015 11 8 1u", "2 E EE%sT 2016 9 7", "3 - +03"]),
  ("Europe/Kaliningrad", [
    "1:22 - LMT 1893 4", "1 c CE%sT 1945 4 10", "2 O EE%sT 1946 4 7",
    "3 R MSK/MSD 1989 3 26 2s", "2 R EE%sT 2011 3 27 2s", "3 - +03 2014 10 26 2s", "2 - EET"]),
  ("Europe/Kirov", [
    "3:18:48 - LMT 1919 7 1 0u", "3 - +03 1930 6 21", "4 R +04/+05 1989 3 26 2s",
    "3 R MSK/MSD 1991 3 31 2s", "4 - +04 1992 3 29 2s", "3 R MSK/MSD 2011 3 27 2s",
    "4 - MSK 2014 10 26 2s", "3 - MSK"]),
  ("Europe/Kyiv", [
    "2:2:4 - LMT 1880", "2:2:4 - KMT 1924 5 2", "2 - EET 1930 6 21", "3 - MSK 1941 9 20",
    "1 c CE%sT 1943 11 6", "3 R MSK/MSD 1990 7 1 2", "2 1 EEST 1991 9 29 3",
    "2 c EE%sT 1996 5 13", "2 E EE%sT"]),
  ("Europe/Lisbon", [
    "-0:36:45 - LMT 1884", "-0:36:45 - LMT 1912 1 1 0u", "0 p WE%sT 1966 10 2 2s",
    "1 - CET 1976 9 26 1", "0 p WE%sT 1986", "0 E WE%sT 1992 9 27 1u", "1 E CE%sT 1996 3 31 1u",
    "0 E WE%sT"]),
  ("Europe/London", [
    "-0:1:15 - LMT 1847 12", "0 G %s 1968 10 27", "1 - BST 1971 10 31 2u", "0 G %s 1996",
    "0 E GMT/BST"]),
  ("Europe/Madrid", [
    "-0:14:44 - LMT 1901 1 1 0u", "0 s WE%sT 1940 3 16 23", "1 s CE%sT 1979", "1 E CE%sT"]),
  ("Europe/Malta", [
    "0:58:4 - LMT 1893 11 2", "1 I CE%sT 1973 3 31", "1 MT CE%sT 1981", "1 E CE%sT"]),
  ("Europe/Minsk", [
    "1:50:16 - LMT 1880", "1:50 - MMT 1924 5 2", "2 - EET 1930 6 21", "3 - MSK 1941 6 28",
    "1 c CE%sT 1944 7 3", "3 R MSK/MSD 1990", "3 - MSK 1991 3 31 2s", "2 R EE%sT 2011 3 27 2s",
    "3 - +03"]),
  ("Europe/Moscow", [
    "2:30:17 - LMT 1880", "2:30:17 - MMT 1916 7 3", "2:31:19 R %s 1919 7 1 0u",
    "3 R %s 1921 10", "3 R MSK/MSD 1922 10", "2 - EET 1930 6 21", "3 R MSK/MSD 1991 3 31 2s",
    "2 R EE%sT 1992 1 19 2s", "3 R MSK/MSD 2011 3 27 2s", "4 - MSK 2014 10 26 2s", "3 - MSK"]),
  ("Europe/Paris", [
    "0:9:21 - LMT 1891 3 16", "0:9:21 - PMT 1911 3 11", "0 F WE%sT 1940 6 14 23",
    "1 c CE%sT 1944 8 25", "0 F WE%sT 1945 9 16 3", "1 F CE%sT 1977", "1 E CE%sT"]),
  ("Europe/Prague", [
    "0:57:44 - LMT 1850", "0:57:44 - PMT 1891 10", "1 c CE%sT 1945 5 9",
    "1 CZ CE%sT 1946 12 1 3", "0 - GMT 1947 2 23 2", "1 CZ CE%sT 1979", "1 E CE%sT"]),
  ("Europe/Riga", [
    "1:36:34 - LMT 1880", "1:36:34 - RMT 1918 4 15 2", "1:36:34 1 LST 1918 9 16 3",
    "1:36:34 - RMT 1919 4 1 2", "1:36:34 1 LST 1919 5 22 3", "1:36:34 - RMT 1926 5 11",
    "2 - EET 1940 8 5", "3 - MSK 1941 7", "1 c CE%sT 1944 10 13",
    "3 R MSK/MSD 1989 3 last-Sun 2s", "2 1 EEST 1989 9 last-Sun 2s", "2 LV EE%sT 1997 1 21",
    "2 E EE%sT 2000 2 29", "2 - EET 2001 1 2", "2 E EE%sT"]),
  ("Europe/Rome", [
    "0:49:56 - LMT 1866 12 12", "0:49:56 - RMT 1893 10 31 23u", "1 I CE%sT 1943 9 10",
    "1 c CE%sT 1944 6 4", "1 I CE%sT 1980", "1 E CE%sT"]),
  ("Europe/Samara", [
    "3:20:20 - LMT 1919 7 1 0u", "3 - +03 1930 6 21", "4 - +04 1935 1 27",
    "4 R +04/+05 1989 3 26 2s", "3 R +03/+04 1991 3 31 2s", "2 R +02/+03 1991 9 29 2s",
    "3 - +03 1991 10 20 3", "4 R +04/+05 2010 3 28 2s", "3 R +03/+04 2011 3 27 2s", "4 - +04"]),
  ("Europe/Saratov", [
    "3:4:18 - LMT 1919 7 1 0u", "3 - +03 1930 6 21", "4 R +04/+05 1988 3 27 2s",
    "3 R +03/+04 1991 3 31 2s", "4 - +04 1992 3 29 2s", "3 R +03/+04 2011 3 27 2s",
    "4 - +04 2014 10 26 2s", "3 - +03 2016 12 4 2s", "4 - +04"]),
  ("Europe/Simferopol", [
    "2:16:24 - LMT 1880", "2:16 - SMT 1924 5 2", "2 - EET 1930 6 21", "3 - MSK 1941 11",
    "1 c CE%sT 1944 4 13", "3 R MSK/MSD 1990", "3 - MSK 1990 7 1 2", "2 - EET 1992 3 20",
    "2 c EE%sT 1994 5", "3 c MSK/MSD 1996 3 31 0s", "3 1 MSD 1996 10 27 3s",
    "3 - MSK 1997 3 last-Sun 1u", "2 E EE%sT 2014 3 30 2", "4 - MSK 2014 10 26 2s", "3 - MSK"]),
  ("Europe/Sofia", [
    "1:33:16 - LMT 1880", "1:56:56 - IMT 1894 11 30", "2 - EET 1942 11 2 3", "1 c CE%sT 1945",
    "1 - CET 1945 4 2 3", "2 - EET 1979 3 31 23", "2 BG EE%sT 1982 9 26 3", "2 c EE%sT 1991",
    "2 e EE%sT 1997", "2 E EE%sT"]),
  ("Europe/Tallinn", [
    "1:39 - LMT 1880", "1:39 - TMT 1918 2", "1 c CE%sT 1919 7", "1:39 - TMT 1921 5",
    "2 - EET 1940 8 6", "3 - MSK 1941 9 15", "1 c CE%sT 1944 9 22", "3 R MSK/MSD 1989 3 26 2s",
    "2 1 EEST 1989 9 24 2s", "2 c EE%sT 1998 9 22", "2 E EE%sT 1999 10 31 4",
    "2 - EET 2002 2 21", "2 E EE%sT"]),
  ("Europe/Tirane", ["1:19:20 - LMT 1914", "1 - CET 1940 6 16", "1 q CE%sT 1984 7", "1 E CE%sT"]),
  ("Europe/Ulyanovsk", [
    "3:13:36 - LMT 1919 7 1 0u", "3 - +03 1930 6 21", "4 R +04/+05 1989 3 26 2s",
    "3 R +03/+04 1991 3 31 2s", "2 R +02/+03 1992 1 19 2s", "3 R +03/+04 2011 3 27 2s",
    "4 - +04 2014 10 26 2s", "3 - +03 2016 3 27 2s", "4 - +04"]),
  ("Europe/Vienna", [
    "1:5:21 - LMT 1893 4", "1 c CE%sT 1920", "1 a CE%sT 1940 4 1 2s", "1 c CE%sT 1945 4 2 2s",
    "1 1 CEST 1945 4 12 2s", "1 - CET 1946", "1 a CE%sT 1981", "1 E CE%sT"]),
  ("Europe/Vilnius", [
    "1:41:16 - LMT 1880", "1:24 - WMT 1917", "1:35:36 - KMT 1919 10 10", "1 - CET 1920 7 12",
    "2 - EET 1920 10 9", "1 - CET 1940 8 3", "3 - MSK 1941 6 24", "1 c CE%sT 1944 8",
    "3 R MSK/MSD 1989 3 26 2s", "2 R EE%sT 1991 9 29 2s", "2 c EE%sT 1998",
    "2 - EET 1998 3 29 1u", "1 E CE%sT 1999 10 31 1u", "2 - EET 2003", "2 E EE%sT"]),
  ("Europe/Volgograd", [
    "2:57:40 - LMT 1920 1 3", "3 - +03 1930 6 21", "4 - +04 1961 11 11",
    "4 R +04/+05 1988 3 27 2s", "3 R MSK/MSD 1991 3 31 2s", "4 - +04 1992 3 29 2s",
    "3 R MSK/MSD 2011 3 27 2s", "4 - MSK 2014 10 26 2s", "3 - MSK 2018 10 28 2s",
    "4 - +04 2020 12 27 2s", "3 - MSK"]),
  ("Europe/Warsaw", [
    "1:24 - LMT 1880", "1:24 - WMT 1915 8 5", "1 c CE%sT 1918 9 16 3", "2 O EE%sT 1922 6",
    "1 O CE%sT 1940 6 23 2", "1 c CE%sT 1944 10", "1 O CE%sT 1977", "1 W- CE%sT 1988",
    "1 E CE%sT"]),
  ("Europe/Zurich", [
    "0:34:8 - LMT 1853 7 16", "0:29:46 - BMT 1894 6", "1 CH CE%sT 1981", "1 E CE%sT"])]

def indianTable : List (String × List String) := [
  ("Indian/Chagos", ["4:49:40 - LMT 1907", "5 - +05 1996", "6 - +06"]),
  ("Indian/Maldives", ["4:54 - LMT 1880", "4:54 - MMT 1960", "5 - +05"]),
  ("Indian/Mauritius", ["3:50 - LMT 1907", "4 MU +04/+05"])]

def pacificTable : List (String × List String) := [
  ("Pacific/Apia", [
    "12:33:4 - LMT 1892 7 5", "-11:26:56 - LMT 1911", "-11:30 - -1130 1950",
    "-11 WS -11/-10 2011 12 29 24", "13 WS +13/+14"]),
  ("Pacific/Auckland", ["11:39:4 - LMT 1868 11 2", "11:30 NZ NZ%sT 1946", "12 NZ NZ%sT"]),
  ("Pacific/Bougainville", [
    "10:22:16 - LMT 1880", "9:48:32 - PMMT 1895", "10 - +10 1942 7", "9 - +09 1945 8 21",
    "10 - +10 2014 12 28 2", "11 - +11"]),
  ("Pacific/Chatham", ["12:13:48 - LMT 1868 11 2", "12:15 - +1215 1946", "12:45 k +1245/+1345"]),
  ("Pacific/Easter", [
    "-7:17:28 - LMT 1890", "-7:17:28 - EMT 1932 9", "-7 x -07/-06 1982 3 14 3u", "-6 x -06/-05"]),
  ("Pacific/Efate", ["11:13:16 - LMT 1912 1 13", "11 VU +11/+12"]),
  ("Pacific/Fakaofo", ["-11:24:56 - LMT 1901", "-11 - -11 2011 12 30", "13 - +13"]),
  ("Pacific/Fiji", ["11:55:44 - LMT 1915 10 26", "12 FJ +12/+13"]),
  ("Pacific/Galapagos", ["-5:58:24 - LMT 1931", "-5 - -05 1986", "-6 EC -06/-05"]),
  ("Pacific/Gambier", ["-8:59:48 - LMT 1912 10", "-9 - -09"]),
  ("Pacific/Guadalcanal", ["10:39:48 - LMT 1912 10", "11 - +11"]),
  ("Pacific/Guam", [
    "-14:21 - LMT 1844 12 31", "9:39 - LMT 1901", "10 - GST 1941 12 10", "9 - +09 1944 7 31",
    "10 Gu G%sT 2000 12 23", "10 - ChST"]),
  ("Pacific/Honolulu", [
    "-10:31:26 - LMT 1896 1 13 12", "-10:30 - HST 1933 4 30 2", "-10:30 1 HDT 1933 5 21 12",
    "-10:30 u H%sT 1947 6 8 2", "-10 - HST"]),
  ("Pacific/Kanton", [
    "0 - -00 1937 8 31", "-12 - -12 1979 10", "-11 - -11 1994 12 31", "13 - +13"]),
  ("Pacific/Kiritimati", [
    "-10:29:20 - LMT 1901", "-10:40 - -1040 1979 10", "-10 - -10 1994 12 31", "14 - +14"]),
  ("Pacific/Kosrae", [
    "-13:8:4 - LMT 1844 12 31", "10:51:56 - LMT 1901", "11 - +11 1914 10", "9 - +09 1919 2",
    "11 - +11 1937", "10 - +10 1941 4", "9 - +09 1945 8", "11 - +11 1969 10", "12 - +12 1999",
    "11 - +11"]),
  ("Pacific/Kwajalein", [
    "11:9:20 - LMT 1901", "11 - +11 1937", "10 - +10 1941 4", "9 - +09 1944 2 6",
    "11 - +11 1969 10", "-12 - -12 1993 8 20 24", "12 - +12"]),
  ("Pacific/Marquesas", ["-9:18 - LMT 1912 10", "-9:30 - -0930"]),
  ("Pacific/Nauru", [
    "11:7:40 - LMT 1921 1 15", "11:30 - +1130 1942 8 29", "9 - +09 1945 9 8",
    "11:30 - +1130 1979 2 10 2", "12 - +12"]),
  ("Pacific/Niue", ["-11:19:40 - LMT 1952 10 16", "-11:20 - -1120 1964 7", "-11 - -11"]),
  ("Pacific/Norfolk", [
    "11:11:52 - LMT 1901", "11:12 - +1112 1951", "11:30 - +1130 1974 10 27 2s",
    "11:30 1 +1230 1975 3 2 2s", "11:30 - +1130 2015 10 4 2s", "11 - +11 2019 7",
    "11 AN +11/+12"]),
  ("Pacific/Noumea", ["11:5:48 - LMT 1912 1 13", "11 NC +11/+12"]),
  ("Pacific/Pago_Pago", ["12:37:12 - LMT 1892 7 5", "-11:22:48 - LMT 1911", "-11 - SST"]),
  ("Pacific/Palau", ["-15:2:4 - LMT 1844 12 31", "8:57:56 - LMT 1901", "9 - +09"]),
  ("Pacific/Pitcairn", ["-8:40:20 - LMT 1901", "-8:30 - -0830 1998 4 27", "-8 - -08"]),
  ("Pacific/Port_Moresby", ["9:48:40 - LMT 1880", "9:48:32 - PMMT 1895", "10 - +10"]),
  ("Pacific/Rarotonga", [
    "13:20:56 - LMT 1899 12 26", "-10:39:4 - LMT 1952 10 16", "-10:30 - -1030 1978 11 12",
    "-10 CK -10/-0930"]),
  ("Pacific/Tahiti", ["-9:58:16 - LMT 1912 10", "-10 - -10"]),
  ("Pacific/Tarawa", ["11:32:4 - LMT 1901", "12 - +12"]),
  ("Pacific/Tongatapu", [
    "12:19:12 - LMT 1945 9 10", "12:20 - +1220 1961", "13 - +13 1999", "13 TO +13/+14"])]

/-- Every zone by its own name. -/
def zoneTable : List (String × List String) :=
  africaTable ++ americaTable ++ antarcticaTable ++ asiaTable ++ atlanticTable
    ++ australiaTable ++ etcTable ++ europeTable ++ indianTable ++ pacificTable

/-- Zones with the other names that they have. -/
def aliasTable : List (String × List String) := [
  ("Africa/Abidjan", [
    "Africa/Accra", "Africa/Bamako", "Africa/Banjul", "Africa/Conakry", "Africa/Dakar",
    "Africa/Freetown", "Africa/Lome", "Africa/Nouakchott", "Africa/Ouagadougou",
    "Africa/Timbuktu", "Atlantic/Reykjavik", "Atlantic/St_Helena", "Iceland"]),
  ("Africa/Cairo", ["Egypt"]),
  ("Africa/Johannesburg", ["Africa/Maseru", "Africa/Mbabane"]),
  ("Africa/Lagos", [
    "Africa/Bangui", "Africa/Brazzaville", "Africa/Douala", "Africa/Kinshasa",
    "Africa/Libreville", "Africa/Luanda", "Africa/Malabo", "Africa/Niamey", "Africa/Porto-Novo"]),
  ("Africa/Maputo", [
    "Africa/Blantyre", "Africa/Bujumbura", "Africa/Gaborone", "Africa/Harare", "Africa/Kigali",
    "Africa/Lubumbashi", "Africa/Lusaka"]),
  ("Africa/Nairobi", [
    "Africa/Addis_Ababa", "Africa/Asmara", "Africa/Asmera", "Africa/Dar_es_Salaam",
    "Africa/Djibouti", "Africa/Kampala", "Africa/Mogadishu", "Indian/Antananarivo",
    "Indian/Comoro", "Indian/Mayotte"]),
  ("Africa/Tripoli", ["Libya"]),
  ("America/Adak", ["America/Atka", "US/Aleutian"]),
  ("America/Anchorage", ["US/Alaska"]),
  ("America/Argentina/Buenos_Aires", ["America/Buenos_Aires"]),
  ("America/Argentina/Catamarca", ["America/Argentina/ComodRivadavia", "America/Catamarca"]),
  ("America/Argentina/Cordoba", ["America/Cordoba", "America/Rosario"]),
  ("America/Argentina/Jujuy", ["America/Jujuy"]),
  ("America/Argentina/Mendoza", ["America/Mendoza"]),
  ("America/Chicago", ["CST6CDT", "US/Central"]),
  ("America/Denver", ["America/Shiprock", "MST7MDT", "Navajo", "US/Mountain"]),
  ("America/Detroit", ["US/Michigan"]),
  ("America/Edmonton", ["America/Yellowknife", "Canada/Mountain"]),
  ("America/Halifax", ["Canada/Atlantic"]),
  ("America/Havana", ["Cuba"]),
  ("America/Indiana/Indianapolis", [
    "America/Fort_Wayne", "America/Indianapolis", "US/East-Indiana"]),
  ("America/Indiana/Knox", ["America/Knox_IN", "US/Indiana-Starke"]),
  ("America/Iqaluit", ["America/Pangnirtung"]),
  ("America/Jamaica", ["Jamaica"]),
  ("America/Kentucky/Louisville", ["America/Louisville"]),
  ("America/Los_Angeles", ["PST8PDT", "US/Pacific"]),
  ("America/Manaus", ["Brazil/West"]),
  ("America/Mazatlan", ["Mexico/BajaSur"]),
  ("America/Mexico_City", ["Mexico/General"]),
  ("America/New_York", ["EST5EDT", "US/Eastern"]),
  ("America/Noronha", ["Brazil/DeNoronha"]),
  ("America/Nuuk", ["America/Godthab"]),
  ("America/Panama", ["America/Atikokan", "America/Cayman", "America/Coral_Harbour", "EST"]),
  ("America/Phoenix", ["America/Creston", "MST", "US/Arizona"]),
  ("America/Puerto_Rico", [
    "America/Anguilla", "America/Antigua", "America/Aruba", "America/Blanc-Sablon",
    "America/Curacao", "America/Dominica", "America/Grenada", "America/Guadeloupe",
    "America/Kralendijk", "America/Lower_Princes", "America/Marigot", "America/Montserrat",
    "America/Port_of_Spain", "America/St_Barthelemy", "America/St_Kitts", "America/St_Lucia",
    "America/St_Thomas", "America/St_Vincent", "America/Tortola", "America/Virgin"]),
  ("America/Regina", ["Canada/Saskatchewan"]),
  ("America/Rio_Branco", ["America/Porto_Acre", "Brazil/Acre"]),
  ("America/Santiago", ["Chile/Continental"]),
  ("America/Sao_Paulo", ["Brazil/East"]),
  ("America/St_Johns", ["Canada/Newfoundland"]),
  ("America/Tijuana", ["America/Ensenada", "America/Santa_Isabel", "Mexico/BajaNorte"]),
  ("America/Toronto", [
    "America/Montreal", "America/Nassau", "America/Nipigon", "America/Thunder_Bay",
    "Canada/Eastern"]),
  ("America/Vancouver", ["Canada/Pacific"]),
  ("America/Whitehorse", ["Canada/Yukon"]),
  ("America/Winnipeg", ["America/Rainy_River", "Canada/Central"]),
  ("Asia/Ashgabat", ["Asia/Ashkhabad"]),
  ("Asia/Bangkok", ["Asia/Phnom_Penh", "Asia/Vientiane", "Indian/Christmas"]),
  ("Asia/Dhaka", ["Asia/Dacca"]),
  ("Asia/Dubai", ["Asia/Muscat", "Indian/Mahe", "Indian/Reunion"]),
  ("Asia/Ho_Chi_Minh", ["Asia/Saigon"]),
  ("Asia/Hong_Kong", ["Hongkong"]),
  ("Asia/Jerusalem", ["Asia/Tel_Aviv", "Israel"]),
  ("Asia/Kathmandu", ["Asia/Katmandu"]),
  ("Asia/Kolkata", ["Asia/Calcutta"]),
  ("Asia/Kuching", ["Asia/Brunei"]),
  ("Asia/Macau", ["Asia/Macao"]),
  ("Asia/Makassar", ["Asia/Ujung_Pandang"]),
  ("Asia/Nicosia", ["Europe/Nicosia"]),
  ("Asia/Qatar", ["Asia/Bahrain"]),
  ("Asia/Riyadh", ["Antarctica/Syowa", "Asia/Aden", "Asia/Kuwait"]),
  ("Asia/Seoul", ["ROK"]),
  ("Asia/Shanghai", ["Asia/Chongqing", "Asia/Chungking", "Asia/Harbin", "PRC"]),
  ("Asia/Singapore", ["Asia/Kuala_Lumpur", "Singapore"]),
  ("Asia/Taipei", ["ROC"]),
  ("Asia/Tehran", ["Iran"]),
  ("Asia/Thimphu", ["Asia/Thimbu"]),
  ("Asia/Tokyo", ["Japan"]),
  ("Asia/Ulaanbaatar", ["Asia/Choibalsan", "Asia/Ulan_Bator"]),
  ("Asia/Urumqi", ["Asia/Kashgar"]),
  ("Asia/Yangon", ["Asia/Rangoon", "Indian/Cocos"]),
  ("Atlantic/Faroe", ["Atlantic/Faeroe"]),
  ("Australia/Adelaide", ["Australia/South"]),
  ("Australia/Brisbane", ["Australia/Queensland"]),
  ("Australia/Broken_Hill", ["Australia/Yancowinna"]),
  ("Australia/Darwin", ["Australia/North"]),
  ("Australia/Hobart", ["Australia/Currie", "Australia/Tasmania"]),
  ("Australia/Lord_Howe", ["Australia/LHI"]),
  ("Australia/Melbourne", ["Australia/Victoria"]),
  ("Australia/Perth", ["Australia/West"]),
  ("Australia/Sydney", ["Australia/ACT", "Australia/Canberra", "Australia/NSW"]),
  ("Etc/GMT", [
    "Etc/GMT+0", "Etc/GMT-0", "Etc/GMT0", "Etc/Greenwich", "GMT", "GMT+0", "GMT-0", "GMT0",
    "Greenwich"]),
  ("Etc/UTC", ["Etc/UCT", "Etc/Universal", "Etc/Zulu", "UCT", "UTC", "Universal", "Zulu"]),
  ("Europe/Athens", ["EET"]),
  ("Europe/Belgrade", [
    "Europe/Ljubljana", "Europe/Podgorica", "Europe/Sarajevo", "Europe/Skopje", "Europe/Zagreb"]),
  ("Europe/Berlin", [
    "Arctic/Longyearbyen", "Atlantic/Jan_Mayen", "Europe/Copenhagen", "Europe/Oslo",
    "Europe/Stockholm"]),
  ("Europe/Brussels", ["CET", "Europe/Amsterdam", "Europe/Luxembourg", "MET"]),
  ("Europe/Chisinau", ["Europe/Tiraspol"]),
  ("Europe/Dublin", ["Eire"]),
  ("Europe/Helsinki", ["Europe/Mariehamn"]),
  ("Europe/Istanbul", ["Asia/Istanbul", "Turkey"]),
  ("Europe/Kyiv", ["Europe/Kiev", "Europe/Uzhgorod", "Europe/Zaporozhye"]),
  ("Europe/Lisbon", ["Portugal", "WET"]),
  ("Europe/London", [
    "Europe/Belfast", "Europe/Guernsey", "Europe/Isle_of_Man", "Europe/Jersey", "GB", "GB-Eire"]),
  ("Europe/Moscow", ["W-SU"]),
  ("Europe/Paris", ["Europe/Monaco"]),
  ("Europe/Prague", ["Europe/Bratislava"]),
  ("Europe/Rome", ["Europe/San_Marino", "Europe/Vatican"]),
  ("Europe/Warsaw", ["Poland"]),
  ("Europe/Zurich", ["Europe/Busingen", "Europe/Vaduz"]),
  ("Indian/Maldives", ["Indian/Kerguelen"]),
  ("Pacific/Auckland", ["Antarctica/McMurdo", "Antarctica/South_Pole", "NZ"]),
  ("Pacific/Chatham", ["NZ-CHAT"]),
  ("Pacific/Easter", ["Chile/EasterIsland"]),
  ("Pacific/Guadalcanal", ["Pacific/Pohnpei", "Pacific/Ponape"]),
  ("Pacific/Guam", ["Pacific/Saipan"]),
  ("Pacific/Honolulu", ["HST", "Pacific/Johnston", "US/Hawaii"]),
  ("Pacific/Kanton", ["Pacific/Enderbury"]),
  ("Pacific/Kwajalein", ["Kwajalein"]),
  ("Pacific/Pago_Pago", ["Pacific/Midway", "Pacific/Samoa", "US/Samoa"]),
  ("Pacific/Port_Moresby", [
    "Antarctica/DumontDUrville", "Pacific/Chuuk", "Pacific/Truk", "Pacific/Yap"]),
  ("Pacific/Tarawa", ["Pacific/Funafuti", "Pacific/Majuro", "Pacific/Wake", "Pacific/Wallis"])]

end Newswire.Calendar.Zone
