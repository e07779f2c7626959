import Tabstave.Value.Basic

/-!
# When two values are the same

Numbers are compared by what they are worth, so that one, the truth value *true* and the binary
number 1.0 are the same. Collections are compared item by item, dictionaries and sets without regard
to order. A `thing` is not the same as any value, and neither is the binary number that is no
number.

Dictionaries find their entries by this relation: `Value.find?` looks a key up, and `Value.put` sets
the value of a key, in place if the key is there already.
-/

namespace Tabstave.Value

/-- How many days there are before a month of a common year. -/
def daysBefore (month : Nat) : Nat :=
  [0, 31, 59, 90, 120, 151, 181, 212, 243, 273, 304, 334].getD (month - 1) 0

/-- The number of a day, counted on through all years. -/
def dayNumber (year month day : Nat) : Nat :=
  let isLeap := year % 4 = 0 && (year % 100 != 0 || year % 400 = 0)
  let years := year - 1
  365 * years + years / 4 - years / 100 + years / 400 + daysBefore month +
    (if isLeap && 2 < month then 1 else 0) + day

/-- A moment by the clock of a zone `offsetMinutes` ahead, in microseconds counted on through all
days. -/
def instant (year month day hour minute second microsecond : Nat) (offsetMinutes : Int) : Int :=
  let minutes : Int := ((dayNumber year month day * 24 + hour) * 60 + minute : Nat)
  ((minutes - offsetMinutes) * 60 + second) * 1000000 + microsecond

/-- Whether two values that are no collections are the same. Moments in two zones are if they are at
the same time. -/
def sameAtom : Value → Value → Bool
  | .null, .null => true
  | .bool a, .bool b => a == b
  | .bool a, .int b => (if a then 1 else 0) == b
  | .int a, .bool b => a == (if b then 1 else 0)
  | .int a, .int b => a == b
  | .float a, .float b => a.same b
  | .float a, .int b => Binary64.sameInt b a
  | .int a, .float b => Binary64.sameInt a b
  | .float a, .bool b => Binary64.sameInt (if b then 1 else 0) a
  | .bool a, .float b => Binary64.sameInt (if a then 1 else 0) b
  | .str a, .str b => a == b
  | .halves a, .halves b => a == b
  | .bytes a, .bytes b => a == b
  | .path a, .path b => a == b
  | .lineKind a, .lineKind b => a == b
  | .date a b c, .date a' b' c' => a == a' && b == b' && c == c'
  | .moment a b c d e f g (some h), .moment a' b' c' d' e' f' g' (some h') =>
    instant a b c d e f g h == instant a' b' c' d' e' f' g' h'
  | .moment a b c d e f g none, .moment a' b' c' d' e' f' g' none =>
    [a, b, c, d, e, f, g] == [a', b', c', d', e', f', g']
  | _, _ => false

mutual

/-- Whether two values are the same. -/
def same : Value → Value → Bool
  | .list xs, .list ys => sameItems xs ys
  | .tuple xs, .tuple ys => sameItems xs ys
  | .set xs, .set ys => xs.length == ys.length && sameMembers xs ys
  | .dict xs, .dict ys => xs.length == ys.length && sameEntries xs ys
  | .cursor a b, .cursor a' b' => same a a' && same b b'
  | .mapping a b c k, .mapping a' b' c' k' => same a a' && same b b' && same c c' && k == k'
  | x, y => sameAtom x y
termination_by structural x => x

/-- Whether two sequences have the same items in the same order. -/
def sameItems : List Value → List Value → Bool
  | [], [] => true
  | x :: xs, y :: ys => same x y && sameItems xs ys
  | _, _ => false
termination_by structural xs => xs

/-- Whether all items of the first are among those of the second. -/
def sameMembers : List Value → List Value → Bool
  | [], _ => true
  | x :: xs, ys => ys.any (same x) && sameMembers xs ys
termination_by structural xs => xs

/-- Whether all entries of the first are among those of the second. -/
def sameEntries : List (Value × Value) → List (Value × Value) → Bool
  | [], _ => true
  | (key, value) :: xs, ys =>
    ys.any (fun entry ↦ same key entry.1 && same value entry.2) && sameEntries xs ys
termination_by structural xs => xs

end

/-- Whether a value is the given text. -/
def isText (text : String) : Value → Bool
  | .str s => s == text
  | _ => false

/-- The value of a key. -/
def find? (key : Value) (entries : List (Value × Value)) : Option Value :=
  (entries.find? fun entry ↦ same entry.1 key).map Prod.snd

/-- Set the value of a key. The entry of a key that is there keeps its place and its key. -/
def put (key value : Value) : List (Value × Value) → List (Value × Value)
  | [] => [(key, value)]
  | entry :: rest =>
    if same entry.1 key then (entry.1, value) :: rest else entry :: put key value rest

/-- Set several keys, one after the other. -/
def putAll (entries : List (Value × Value)) (into : List (Value × Value)) : List (Value × Value) :=
  entries.foldl (fun into entry ↦ put entry.1 entry.2 into) into

/-- The value that a member of a dictionary has, or the fault of asking something else for it. -/
def getText (value : Value) (key : String) (default : Value) : Except Fault Value :=
  match value with
  | .dict entries => .ok ((find? (.str key) entries).getD default)
  | v => .error (.noMember v.typeName "get")

mutual

/-- Why a value cannot be the key of a dictionary: the name of the type that stands in the way. -/
def unhashable? : Value → Option String
  | .list _ => some "list"
  | .set _ => some "set"
  | .dict _ => some "dict"
  | .mapping _ _ _ _ => some "LineMapping"
  | .tuple items => unhashableItem? items
  | .cursor line column => unhashable? line <|> unhashable? column
  | _ => none
termination_by structural x => x

/-- The first item that cannot be part of a key. -/
def unhashableItem? : List Value → Option String
  | [] => none
  | item :: rest => unhashable? item <|> unhashableItem? rest
termination_by structural xs => xs

end

/-- The fault of using a value as a key, if it is one. -/
def checkKey (key : Value) : Except Fault Unit :=
  match unhashable? key with
  | some type => .error (.unhashable type)
  | none => .ok ()

end Tabstave.Value
