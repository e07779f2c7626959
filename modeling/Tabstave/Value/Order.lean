import Tabstave.Value.Same

/-!
# The order of values

Only some values can be put in order: numbers by what they are worth, texts and paths by their
characters, sequences by the first items that differ. `Value.less` answers for two values or names
the types that have no order in common.
-/

namespace Tabstave

namespace Value

/-- The components of a path, in the order in which paths are compared. -/
def pathParts (s : String) : List String :=
  let root := if s.startsWith "//" && !s.startsWith "///" then ["//"]
    else if s.startsWith "/" then ["/"] else []
  root ++ (s.splitOn "/").filter fun part ↦ part != "" && part != "."

/-- Whether the first sequence of texts comes before the second. -/
def lessTexts : List String → List String → Bool
  | [], ys => !ys.isEmpty
  | _ :: _, [] => false
  | x :: xs, y :: ys => if x == y then lessTexts xs ys else x < y

/-- Whether the first sequence of bytes comes before the second. -/
def lessBytes : List UInt8 → List UInt8 → Bool
  | [], ys => !ys.isEmpty
  | _ :: _, [] => false
  | x :: xs, y :: ys => if x == y then lessBytes xs ys else x < y

/-- The order of values that are no sequences. -/
def lessAtom (x y : Value) : Except Fault Bool :=
  match x, y with
  | .float a, .float b => .ok (a.blt b)
  | .str a, .str b => .ok (a < b)
  | .str a, .halves b => .ok (Text.codes a.toList < b)
  | .halves a, .str b => .ok (a < Text.codes b.toList)
  | .halves a, .halves b => .ok (a < b)
  | .bytes a, .bytes b => .ok (lessBytes a b)
  | .path a, .path b => .ok (lessTexts (pathParts a) (pathParts b))
  | .set a, .set b => .ok (a.length < b.length && sameMembers a b)
  | .date a b c, .date a' b' c' => .ok ([a, b, c] < [a', b', c'])
  | x, y =>
    match x.asInt?, y.asInt?, x, y with
    | some a, some b, _, _ => .ok (a < b)
    | some a, _, _, .float b => .ok (Binary64.intBlt a b)
    | _, some b, .float a, _ => .ok (Binary64.bltInt a b)
    | _, _, _, _ => .error (.unordered "<" x.typeName y.typeName)

mutual

/-- Whether the first value comes before the second. -/
def less : Value → Value → Except Fault Bool
  | .list xs, .list ys => lessItems xs ys
  | .tuple xs, .tuple ys => lessItems xs ys
  | x, y => lessAtom x y
termination_by structural x => x

/-- The order of two sequences is that of the first items that are not the same. -/
def lessItems : List Value → List Value → Except Fault Bool
  | [], ys => .ok !ys.isEmpty
  | _ :: _, [] => .ok false
  | x :: xs, y :: ys => if same x y then lessItems xs ys else less x y
termination_by structural xs => xs

end

end Value

end Tabstave
