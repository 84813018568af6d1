import GrammarCorpus.Oracle.Verdict
import GrammarCorpus.Text.Case
import Mathlib.Data.List.Forall2

namespace GrammarCorpus

/-!
# Markers in any case

A marker stands in a text in any case if some piece of the text is the marker once it is put in
lower case. Lower case is taken as Unicode has it, where one character turns into two and where
the Kelvin sign has a small letter in ASCII. The short table that serves for the markers tells
the same: a marker of ASCII characters never ends between the two characters.
-/

namespace Text

/-- The small letter of a point is itself, or lies as far away as one of the ranges tells. -/
theorem smallPoint_cases (point : Nat) (ranges : List CapitalRange) :
    smallPoint point ranges = point ∨
      ∃ range ∈ ranges, range.first ≤ point ∧ point ≤ range.last ∧
        smallPoint point ranges = ((point : Int) + range.shift).toNat := by
  induction ranges with
  | nil => exact .inl rfl
  | cons range ranges inductionHypothesis =>
      rw [smallPoint]
      split
      next => exact .inl rfl
      next notBelow =>
        split
        next inside =>
          rw [Bool.and_eq_true, decide_eq_true_iff] at inside
          exact .inr ⟨range, List.mem_cons_self, Nat.le_of_not_lt notBelow, inside.1, rfl⟩
        next =>
          rcases inductionHypothesis with same | ⟨other, member, further⟩
          · exact .inl same
          · exact .inr ⟨other, List.mem_cons_of_mem _ member, further⟩

/-- The small letters of a range are characters, and none of them is in ASCII. -/
def CapitalRange.StaysBeyond (range : CapitalRange) : Prop :=
  128 ≤ range.first + range.shift ∧
    (range.last + range.shift < 0xd800 ∨
      0xe000 ≤ range.first + range.shift ∧ range.last + range.shift < 0x110000)

instance (range : CapitalRange) : Decidable range.StaysBeyond :=
  inferInstanceAs (Decidable (_ ∧ _))

/-- The Kelvin sign. -/
def kelvin : Char :=
  Char.ofNat 0x212a

/-- Beyond ASCII, only the Kelvin sign has a small letter in ASCII. -/
theorem staysBeyond_or_kelvin :
    ∀ range ∈ capitalRanges, 128 ≤ range.last →
      range.StaysBeyond ∨ range.first = kelvin.toNat ∧ range.last = kelvin.toNat := by
  decide +kernel

section Characters

variable {character : Char}

/-- Beyond ASCII, the small letter is a character beyond ASCII. -/
theorem smallPoint_beyond
    (beyond : 128 ≤ character.toNat)
    (notKelvin : character ≠ kelvin) :
    128 ≤ (Char.ofNat (smallPoint character.toNat capitalRanges)).toNat := by
  rcases smallPoint_cases character.toNat capitalRanges with
    same | ⟨range, member, above, below, small⟩
  · rwa [same, Char.ofNat_toNat]
  · rcases staysBeyond_or_kelvin range member (by omega) with stays | ⟨first, last⟩
    · rw [CapitalRange.StaysBeyond] at stays
      have valid : (smallPoint character.toNat capitalRanges).isValidChar := by
        rw [small, Nat.isValidChar]
        omega
      rw [Char.ofNat, dif_pos valid]
      change 128 ≤ smallPoint character.toNat capitalRanges
      omega
    · exact absurd (Char.toNat_inj.1 (by omega)) notKelvin

/-- What holds of all ASCII characters one by one. -/
theorem ascii_forall
    (property : Char → Prop)
    (each : ∀ point < 128, property (Char.ofNat point))
    (ascii : character.toNat < 128) :
    property character := by
  have := each character.toNat ascii
  rwa [Char.ofNat_toNat] at this

/-- Beyond ASCII, there are no letters of ASCII to put in lower case. -/
theorem toLower_of_beyond (beyond : 128 ≤ character.toNat) : character.toLower = character := by
  refine dif_neg ?_
  rintro ⟨-, atMost⟩
  have : character.toNat ≤ 'Z'.toNat := atMost
  have : 'Z'.toNat < 128 := by decide
  omega

/--
The short table tells of a character what Unicode tells, apart from single characters beyond
ASCII, which both leave there.
-/
theorem lower_cases (character : Char) :
    lower character = Grmtools.lowered character ∨
      ∃ small same, lower character = [small] ∧ Grmtools.lowered character = [same] ∧
        128 ≤ small.toNat ∧ 128 ≤ same.toNat := by
  by_cases ascii : character.toNat < 128
  · have same : ∀ point < 128,
        lower (Char.ofNat point) = Grmtools.lowered (Char.ofNat point) := by
      decide +kernel
    exact .inl (ascii_forall (fun letter => lower letter = Grmtools.lowered letter) same ascii)
  · by_cases isKelvin : character = kelvin
    · subst isKelvin
      exact .inl (by decide +kernel)
    · by_cases isDotted : character = 'İ'
      · subst isDotted
        exact .inl (by decide +kernel)
      · have beyond := Nat.le_of_not_lt ascii
        refine .inr ⟨_, character, if_neg isDotted, ?_, smallPoint_beyond beyond isKelvin, beyond⟩
        have single : Grmtools.lowered character = [character.toLower] :=
          (if_neg isKelvin).trans (if_neg isDotted)
        rw [single, toLower_of_beyond beyond]

end Characters

section Texts

variable {marker piece text : List Char}

/-- All characters are in ASCII. -/
def IsAscii (characters : List Char) : Prop :=
  ∀ character ∈ characters, character.toNat < 128

instance (characters : List Char) : Decidable (IsAscii characters) :=
  List.decidableBAll _ _

/-- If either way of putting a text in lower case leaves it in ASCII, both agree. -/
theorem lowerCaseFrom_eq_flatMap
    (inWord : Bool)
    (ascii : IsAscii (lowerCaseFrom inWord text) ∨ IsAscii (text.flatMap Grmtools.lowered)) :
    lowerCaseFrom inWord text = text.flatMap Grmtools.lowered := by
  induction text generalizing inWord with
  | nil => rfl
  | cons character rest inductionHypothesis =>
      rw [lowerCaseFrom, List.flatMap_cons] at ascii ⊢
      generalize (if isCaseIgnored character then inWord else isCased character) = stillInWord
        at ascii ⊢
      have front :
          (if character = 'Σ' && inWord && !beginsCased rest then ['ς'] else lower character) =
              Grmtools.lowered character ∨
            ∃ small same,
              (if character = 'Σ' && inWord && !beginsCased rest then ['ς']
                else lower character) = [small] ∧
                Grmtools.lowered character = [same] ∧ 128 ≤ small.toNat ∧ 128 ≤ same.toNat := by
        split
        -- Only a sigma at the end of a word goes its own way, which leaves ASCII too.
        next final =>
          have isSigma : character = 'Σ' := by
            simp only [Bool.and_eq_true, decide_eq_true_eq] at final
            exact final.1.1
          subst isSigma
          exact .inr ⟨'ς', 'Σ', rfl, by decide, by decide, by decide⟩
        next => exact lower_cases character
      rcases front with same | ⟨small, same, lowerShape, loweredShape, smallBeyond, sameBeyond⟩
      · rw [same] at ascii ⊢
        rw [inductionHypothesis stillInWord]
        exact ascii.imp (fun all other member => all other (List.mem_append_right _ member))
          fun all other member => all other (List.mem_append_right _ member)
      · rw [lowerShape, loweredShape] at ascii
        exfalso
        rcases ascii with all | all
        · exact absurd (all small List.mem_cons_self) (Nat.not_lt.2 smallBeyond)
        · exact absurd (all same List.mem_cons_self) (Nat.not_lt.2 sameBeyond)

/-- A marker in ASCII that does not end in the letter that may have a mark behind it. -/
def IsTraceable (marker : List Char) : Prop :=
  IsAscii marker ∧ marker.getLast? ≠ some 'i'

instance (marker : List Char) : Decidable (IsTraceable marker) :=
  inferInstanceAs (Decidable (_ ∧ _))

/-- A traceable marker stays one when its first character is taken away. -/
theorem IsTraceable.tail
    {character : Char}
    {rest : List Char}
    (traceable : IsTraceable (character :: rest)) :
    IsTraceable rest := by
  refine ⟨fun other member => traceable.1 other (List.mem_cons_of_mem _ member), fun last => ?_⟩
  refine traceable.2 ?_
  rw [List.getLast?_cons, last]
  rfl

/-- A character in lower case is one character, or the letter i with a mark behind it. -/
theorem lowered_cases (character : Char) :
    (∃ single, Grmtools.lowered character = [single]) ∨
      Grmtools.lowered character = ['i', Char.ofNat 0x307] := by
  rw [Grmtools.lowered]
  split
  · exact .inl ⟨_, rfl⟩
  · split
    · exact .inr rfl
    · exact .inl ⟨_, rfl⟩

/-- What begins with the mark behind a letter is no traceable marker. -/
theorem IsTraceable.eq_nil_of_prefix_mark
    (traceable : IsTraceable marker)
    (found : marker <+: Char.ofNat 0x307 :: text) :
    marker = [] := by
  cases marker with
  | nil => rfl
  | cons character rest =>
      have isMark := (List.cons_prefix_cons.1 found).1
      have ascii := traceable.1 character List.mem_cons_self
      rw [isMark] at ascii
      exact absurd ascii (by decide)

/-- A traceable marker in front of a text in lower case is the front of the text. -/
theorem exists_prefix_of_lowered
    (traceable : IsTraceable marker)
    (found : marker <+: text.flatMap Grmtools.lowered) :
    ∃ piece, piece <+: text ∧ piece.flatMap Grmtools.lowered = marker := by
  induction text generalizing marker with
  | nil => exact ⟨[], List.nil_prefix, (List.prefix_nil.1 found).symm⟩
  | cons character rest inductionHypothesis =>
      cases marker with
      | nil => exact ⟨[], List.nil_prefix, rfl⟩
      | cons first others =>
          rw [List.flatMap_cons] at found
          rcases lowered_cases character with ⟨single, shape⟩ | shape
          · rw [shape, List.singleton_append, List.cons_prefix_cons] at found
            obtain ⟨rfl, later⟩ := found
            obtain ⟨piece, front, spelled⟩ := inductionHypothesis traceable.tail later
            refine ⟨character :: piece, List.cons_prefix_cons.2 ⟨rfl, front⟩, ?_⟩
            rw [List.flatMap_cons, shape, spelled]
            rfl
          · rw [shape, List.cons_append, List.cons_prefix_cons] at found
            obtain ⟨rfl, later⟩ := found
            -- The mark is no ASCII character, so the marker would have to end in front of it.
            have ended : others = [] := traceable.tail.eq_nil_of_prefix_mark later
            exact absurd (by rw [ended]; rfl) traceable.2

/-- A traceable marker in a text in lower case is a piece of the text. -/
theorem exists_infix_of_lowered
    (traceable : IsTraceable marker)
    (found : marker <:+: text.flatMap Grmtools.lowered) :
    ∃ piece, piece <:+: text ∧ piece.flatMap Grmtools.lowered = marker := by
  induction text with
  | nil => exact ⟨[], List.nil_infix, (List.infix_nil.1 found).symm⟩
  | cons character rest inductionHypothesis =>
      have atFront : marker <+: (character :: rest).flatMap Grmtools.lowered →
          ∃ piece, piece <:+: character :: rest ∧ piece.flatMap Grmtools.lowered = marker := by
        intro front
        obtain ⟨piece, isFront, spelled⟩ := exists_prefix_of_lowered traceable front
        exact ⟨piece, isFront.isInfix, spelled⟩
      have behind : marker <:+: rest.flatMap Grmtools.lowered →
          ∃ piece, piece <:+: character :: rest ∧ piece.flatMap Grmtools.lowered = marker := by
        intro later
        obtain ⟨piece, inside, spelled⟩ := inductionHypothesis later
        exact ⟨piece, List.infix_cons inside, spelled⟩
      rw [List.flatMap_cons] at found atFront
      rcases lowered_cases character with ⟨single, shape⟩ | shape
      · rw [shape, List.singleton_append] at found atFront
        exact (List.infix_cons_iff.1 found).elim atFront behind
      · rw [shape, List.cons_append, List.singleton_append] at found atFront
        rcases List.infix_cons_iff.1 found with front | inMark
        · exact atFront front
        · rcases List.infix_cons_iff.1 inMark with front | later
          · rw [traceable.eq_nil_of_prefix_mark front]
            exact ⟨[], List.nil_infix, rfl⟩
          · exact behind later

/-- Some piece of the text is the marker once it is put in lower case. -/
def OccursInAnyCase (marker text : List Char) : Prop :=
  ∃ piece, piece <:+: text ∧ lowerCase piece = marker

/-- The short table finds the traceable markers that stand in a text in any case. -/
theorem occursInAnyCase_iff (traceable : IsTraceable marker) :
    OccursInAnyCase marker text ↔ marker <:+: text.flatMap Grmtools.lowered := by
  constructor
  · rintro ⟨piece, ⟨front, back, rfl⟩, rfl⟩
    rw [lowerCase, lowerCaseFrom_eq_flatMap false (.inl traceable.1)]
    exact ⟨front.flatMap Grmtools.lowered, back.flatMap Grmtools.lowered, by simp⟩
  · intro found
    obtain ⟨piece, inside, rfl⟩ := exists_infix_of_lowered traceable found
    exact ⟨piece, inside, lowerCaseFrom_eq_flatMap false (.inr traceable.1)⟩

/-- Two texts that differ in nothing but the case of ASCII letters. -/
def SameButCase (first second : List Char) : Prop :=
  List.Forall₂ (fun one other => one.toLower = other.toLower) first second

instance (first second : List Char) : Decidable (SameButCase first second) :=
  inferInstanceAs (Decidable (List.Forall₂ _ first second))

/-- The case of ASCII letters does not matter in lower case. -/
theorem lowered_toLower (character : Char) :
    Grmtools.lowered character.toLower = Grmtools.lowered character := by
  by_cases ascii : character.toNat < 128
  · have same : ∀ point < 128,
        Grmtools.lowered (Char.ofNat point).toLower = Grmtools.lowered (Char.ofNat point) := by
      decide +kernel
    exact ascii_forall (fun letter => Grmtools.lowered letter.toLower = Grmtools.lowered letter)
      same ascii
  · rw [toLower_of_beyond (Nat.le_of_not_lt ascii)]

/-- Texts that differ in nothing but the case of ASCII letters agree in lower case. -/
theorem SameButCase.flatMap_lowered
    {first second : List Char}
    (same : SameButCase first second) :
    first.flatMap Grmtools.lowered = second.flatMap Grmtools.lowered := by
  induction same with
  | nil => rfl
  | @cons one other _ _ equal _ inductionHypothesis =>
      rw [List.flatMap_cons, List.flatMap_cons, inductionHypothesis, ← lowered_toLower one, equal,
        lowered_toLower]

end Texts

end Text

end GrammarCorpus
