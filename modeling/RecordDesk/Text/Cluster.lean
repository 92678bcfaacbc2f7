import RecordDesk.Text.ClusterRanges
import RecordDesk.Text.GlyphRanges

/-!
Texts as clusters, the characters that a reader sees as one: a letter with its marks, a syllable, a
picture of several pictures joined, a flag of two letters. Nothing is lost by the split, and no
cluster is empty.
-/

namespace RecordDesk.Text

/-- What a character does to the boundary before it and the one after it. -/
inductive ClusterClass where
  | carriageReturn
  | lineFeed
  | breaking
  | extending
  | joiner
  | spacing
  | leading
  | syllableStart
  | vowel
  | final
  | openSyllable
  | closedSyllable
  | flag
  | pictograph
  | plain
  deriving DecidableEq

namespace ClusterClass

def isSkinTone (c : Char) : Bool := 0x1F3FB ≤ c.toNat && c.toNat ≤ 0x1F3FF

/-- One of the letters that name a country two by two. -/
def isFlagLetter (c : Char) : Bool := 0x1F1E6 ≤ c.toNat && c.toNat ≤ 0x1F1FF

/-- The class of a Hangul letter or syllable. A syllable is open when it has no final consonant. -/
def hangul? (n : Nat) : Option ClusterClass :=
  if (0x1100 ≤ n && n ≤ 0x115F) || (0xA960 ≤ n && n ≤ 0xA97C) then some .syllableStart
  else if (0x1160 ≤ n && n ≤ 0x11A7) || (0xD7B0 ≤ n && n ≤ 0xD7C6) then some .vowel
  else if (0x11A8 ≤ n && n ≤ 0x11FF) || (0xD7CB ≤ n && n ≤ 0xD7FB) then some .final
  else if 0xAC00 ≤ n && n ≤ 0xD7A3 then
    some (if (n - 0xAC00) % 28 = 0 then .openSyllable else .closedSyllable)
  else none

/-- The vowel signs of Kirat Rai join each other as Hangul vowels do. -/
def isJoiningVowel (n : Nat) : Bool := n == 0x16D63 || (0x16D67 ≤ n && n ≤ 0x16D6A)

def ofChar (c : Char) : ClusterClass :=
  if 0x20 ≤ c.toNat && c.toNat < 0x7F then .plain
  else if c = '\r' then .carriageReturn
  else if c = '\n' then .lineFeed
  else if c = '\u200d' then .joiner
  else if isFlagLetter c then .flag
  else if isSkinTone c || inRanges extendingRanges c then .extending
  else if inRanges breakingRanges c then .breaking
  else if inRanges spacingRanges c then .spacing
  else if inRanges leadingRanges c then .leading
  else if isJoiningVowel c.toNat then .vowel
  else if inRanges pictographRanges c then .pictograph
  else (hangul? c.toNat).getD .plain

end ClusterClass

/-- How much of a joined picture stands at the end of a text: nothing, a picture, or a picture that
a joiner follows. -/
inductive PictureRun where
  | none
  | picture
  | joined
  deriving DecidableEq

/-- How much of a conjunct stands at the end of a text: nothing, a consonant, or a consonant that a
sign links to the next. -/
inductive ConjunctRun where
  | none
  | consonant
  | linked
  deriving DecidableEq

/-- What the boundary after a text depends on. An odd number of flag letters waits for one more. -/
structure ClusterRun where
  last : ClusterClass
  pictures : PictureRun
  conjunct : ConjunctRun
  oddFlags : Bool

namespace ClusterRun

def empty : ClusterRun := ⟨.lineFeed, .none, .none, false⟩

def nextPictures (run : PictureRun) (k : ClusterClass) : PictureRun :=
  match k, run with
  | .pictograph, _ => .picture
  | .extending, .picture => .picture
  | .joiner, .picture => .joined
  | _, _ => .none

def nextConjunct (run : ConjunctRun) (k : ClusterClass) (c : Char) : ConjunctRun :=
  if inRanges conjunctRanges c then .consonant
  else match run with
    | .none => .none
    | run =>
      if inRanges linkerRanges c then .linked
      else if k = .joiner ∨ (k = .extending ∧ c ≠ '\u200c') then run
      else .none

/-- One more character at the end. -/
def push (run : ClusterRun) (c : Char) : ClusterRun :=
  let k := ClusterClass.ofChar c
  ⟨k, nextPictures run.pictures k, nextConjunct run.conjunct k c, k = .flag && !run.oddFlags⟩

/-- No boundary stands between the text and the next character. -/
def joins (run : ClusterRun) (c : Char) : Bool :=
  match run.last, ClusterClass.ofChar c with
  | .carriageReturn, .lineFeed => true
  | .carriageReturn, _ => false
  | .lineFeed, _ => false
  | .breaking, _ => false
  | _, .carriageReturn => false
  | _, .lineFeed => false
  | _, .breaking => false
  | _, .extending => true
  | _, .joiner => true
  | _, .spacing => true
  | .leading, _ => true
  | .syllableStart, .syllableStart => true
  | .syllableStart, .vowel => true
  | .syllableStart, .openSyllable => true
  | .syllableStart, .closedSyllable => true
  | .openSyllable, .vowel => true
  | .openSyllable, .final => true
  | .vowel, .vowel => true
  | .vowel, .final => true
  | .closedSyllable, .final => true
  | .final, .final => true
  | .flag, .flag => run.oddFlags
  | .joiner, .pictograph => run.pictures = .joined
  | _, _ => run.conjunct = .linked && inRanges conjunctRanges c

end ClusterRun

/-- Splits a text whose first cluster has begun with `begun`, the latest character first. -/
def clustersFrom (run : ClusterRun) (begun : List Char) : List Char → List (List Char)
  | [] => [begun.reverse]
  | c :: cs =>
    if run.joins c then clustersFrom (run.push c) (c :: begun) cs
    else begun.reverse :: clustersFrom (run.push c) [c] cs

def clusters : List Char → List (List Char)
  | [] => []
  | c :: cs => clustersFrom (ClusterRun.empty.push c) [c] cs

theorem flatten_clustersFrom (run : ClusterRun) (begun cs : List Char) :
    (clustersFrom run begun cs).flatten = begun.reverse ++ cs := by
  induction cs generalizing run begun with
  | nil => simp [clustersFrom]
  | cons c cs ih =>
    simp only [clustersFrom]
    split <;> simp [ih]

theorem flatten_clusters (cs : List Char) : (clusters cs).flatten = cs := by
  cases cs with
  | nil => rfl
  | cons c cs => simp [clusters, flatten_clustersFrom]

theorem ne_nil_of_mem_clustersFrom (run : ClusterRun) (begun cs g : List Char) (hb : begun ≠ [])
    (hg : g ∈ clustersFrom run begun cs) : g ≠ [] := by
  induction cs generalizing run begun with
  | nil => simp_all [clustersFrom]
  | cons c cs ih =>
    simp only [clustersFrom] at hg
    split at hg
    · exact ih _ _ (by simp) hg
    · rcases List.mem_cons.1 hg with rfl | hg
      · simpa using hb
      · exact ih _ _ (by simp) hg

end RecordDesk.Text
