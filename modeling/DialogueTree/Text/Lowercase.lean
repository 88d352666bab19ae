import DialogueTree.Text.CaseTable

/-!
# Lower case

Lower-casing a text by the full Unicode mapping: most letters have one lower-case letter, the
capital I with a dot above becomes two characters, and a capital sigma becomes a final sigma at
the end of a word.

* `lowerChar`: a character by itself.
* `lower`: a text.
-/

namespace DialogueTree.Text

/-- Whether a code point lies in one of the ranges. -/
def inRanges (ranges : List (Nat × Nat)) (n : Nat) : Bool :=
  ranges.any fun r => r.1 ≤ n && n ≤ r.2

/-- Whether a run of the case data holds a code point. -/
def CaseRun.holds (r : CaseRun) (n : Nat) : Bool :=
  r.first ≤ n && n ≤ r.last && (n - r.first) % r.step == 0

/-- The lower-case form of a character by itself. -/
def lowerChar (c : Char) : List Char :=
  if c.toNat = 0x130 then [Char.ofNat 0x69, Char.ofNat 0x307]
  else match caseRuns.find? (·.holds c.toNat) with
    | some r => [Char.ofNat (c.toNat + r.shift).toNat]
    | none => [c]

/-- The Greek capital letter sigma. -/
def capitalSigma : Char := Char.ofNat 0x3A3

/-- Whether the first character that case does not skip is a cased one. -/
def meetsCased (cs : List Char) : Bool :=
  match cs.dropWhile (fun c => inRanges caseIgnorableRanges c.toNat) with
  | c :: _ => inRanges casedRanges c.toNat
  | [] => false

/-- A capital sigma is final when a cased character stands before it and none after it,
`Case_Ignorable` characters being skipped on both sides. `before` is read backwards. -/
def isFinalSigma (before after : List Char) : Bool :=
  meetsCased before && !meetsCased after

/-- The lower-case form of `cs`, which the characters of `before`, read backwards, precede. -/
def lowerAfter (before : List Char) : List Char → List Char
  | [] => []
  | c :: cs =>
    (if c = capitalSigma then [Char.ofNat (if isFinalSigma before cs then 0x3C2 else 0x3C3)]
      else lowerChar c) ++ lowerAfter (c :: before) cs

/-- The lower-case form of a text by the full Unicode mapping. -/
def lower (s : String) : String :=
  String.ofList (lowerAfter [] s.toList)

end DialogueTree.Text
