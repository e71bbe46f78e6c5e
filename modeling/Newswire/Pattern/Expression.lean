/-!
# Patterns as they are written

The parts of a pattern before flags are applied and names are looked up. The depth of an expression
is bounded, so that no later pass has to be.
-/

namespace Newswire.Pattern

/-- A character that stands for itself. One written with exactly two hexadecimal digits is a byte
where characters beyond ASCII are switched off. -/
structure Literal where
  char : Char
  isByte : Bool := false
  deriving Repr, DecidableEq

inductive Shorthand where
  | digit
  | space
  | word
  deriving Repr, DecidableEq

/-- A property of characters: a name alone, or a name and a value. -/
inductive Property where
  | named (name : String)
  | valued (name value : String)
  deriving Repr, DecidableEq

/-- The places that a word has an edge at, or half of one. -/
inductive Edge where
  | either
  | none
  | start
  | stop
  | startHalf
  | stopHalf
  deriving Repr, DecidableEq

inductive Assertion where
  | lineStart
  | lineEnd
  | textStart
  | textEnd
  | word (edge : Edge)
  deriving Repr, DecidableEq

inductive SetOperator where
  | intersection
  | difference
  | symmetricDifference
  deriving Repr, DecidableEq

/-- What stands between brackets. -/
inductive SetExpression where
  | nothing
  | literal (l : Literal)
  | range (lo hi : Literal)
  | ascii (name : String) (negated : Bool)
  | property (p : Property) (negated : Bool)
  | shorthand (s : Shorthand) (negated : Bool)
  | bracketed (negated : Bool) (body : SetExpression)
  | union (items : List SetExpression)
  | operation (op : SetOperator) (lhs rhs : SetExpression)
  deriving Repr, Inhabited

inductive Flag where
  | ignoreCase
  | multiLine
  | dotAll
  | swapGreed
  | unicode
  | crlf
  | spaced
  deriving Repr, DecidableEq

/-- Flags in the order they are written, each with the state it is given. -/
abbrev FlagList := List (Flag × Bool)

inductive GroupKind where
  | captured (index : Nat) (name : Option String)
  | flagged (flags : FlagList)
  deriving Repr, Inhabited

inductive Expression where
  | empty
  | flags (fs : FlagList)
  | literal (l : Literal)
  | dot
  | assertion (a : Assertion)
  | property (p : Property) (negated : Bool)
  | shorthand (s : Shorthand) (negated : Bool)
  | set (negated : Bool) (body : SetExpression)
  | repetition (min : Nat) (max : Option Nat) (greedy : Bool) (body : Expression)
  | group (kind : GroupKind) (body : Expression)
  | alternation (branches : List Expression)
  | sequence (parts : List Expression)
  deriving Repr, Inhabited

mutual

/-- How deep sets lie inside one another. -/
def SetExpression.depth : SetExpression → Nat
  | bracketed _ body => depth body + 1
  | union items => depths items + 1
  | operation _ lhs rhs => max (depth lhs) (depth rhs) + 1
  | _ => 0

def SetExpression.depths : List SetExpression → Nat
  | [] => 0
  | s :: rest => max (SetExpression.depth s) (SetExpression.depths rest)

end

mutual

/-- How deep the parts of an expression lie inside one another; what has no parts counts nothing. -/
def Expression.depth : Expression → Nat
  | set _ body => body.depth + 1
  | repetition _ _ _ body => depth body + 1
  | group _ body => depth body + 1
  | alternation branches => depths branches + 1
  | sequence parts => depths parts + 1
  | _ => 0

def Expression.depths : List Expression → Nat
  | [] => 0
  | e :: rest => max (Expression.depth e) (Expression.depths rest)

end

/-- The depth up to which expressions are accepted. -/
def maxDepth : Nat := 250

end Newswire.Pattern
