import Mathlib
import StochasticGrammar.Text.Lowercase
import StochasticGrammar.Proofs.Lint.Guarantees

/-! Full lower case is idempotent, no run of its table sending a character to one the table
moves again; so normalizing twice is normalizing once. -/
namespace StochasticGrammar.Text

/-- `InRun n r`: the code point `n` is one of `lo, lo + step, …` up to `hi` for the run
`r = (lo, hi, step, shift)`. -/
def InRun (n : Nat) (r : Nat × Nat × Nat × Int) : Prop :=
  r.1 ≤ n ∧ n ≤ r.2.1 ∧ (n - r.1) % r.2.2.1 = 0

theorem runShift_eq_some {rs : List (Nat × Nat × Nat × Int)} {n : Nat} {shift : Int}
    (h : runShift rs n = some shift) : ∃ r ∈ rs, InRun n r ∧ r.2.2.2 = shift := by
  induction rs with
  | nil => simp [runShift] at h
  | cons r rs ih =>
    obtain ⟨lo, hi, step, s⟩ := r
    simp only [runShift] at h
    split at h
    · cases h
    · next hlo =>
      split at h
      · next hin =>
        cases h
        simp only [Bool.and_eq_true, decide_eq_true_eq, beq_iff_eq] at hin
        exact ⟨_, List.mem_cons_self .., ⟨by omega, hin.1, hin.2⟩, rfl⟩
      · obtain ⟨r', hr', hin, hs⟩ := ih h
        exact ⟨r', List.mem_cons_of_mem _ hr', hin, hs⟩

theorem runShift_eq_none {rs : List (Nat × Nat × Nat × Int)} {n : Nat}
    (h : ∀ r ∈ rs, ¬InRun n r) : runShift rs n = none := by
  induction rs with
  | nil => rfl
  | cons r rs ih =>
    obtain ⟨lo, hi, step, s⟩ := r
    have hout : ¬InRun n (lo, hi, step, s) := h _ (List.mem_cons_self ..)
    simp only [runShift]
    split
    · rfl
    · next hlo =>
      rw [if_neg, ih fun r hr => h r (List.mem_cons_of_mem _ hr)]
      simp only [Bool.and_eq_true, decide_eq_true_eq, beq_iff_eq]
      exact fun hin => hout ⟨by omega, hin.1, hin.2⟩

/-- Whether the points `a, …, b` of an image with step `s` miss the run `t`: they end before it,
start after it, or, where `t` has step two, all have the parity that `t` has not. -/
def missesRun (a b s : Nat) (t : Nat × Nat × Nat × Int) : Bool :=
  b < t.1 || t.2.1 < a || (t.2.2.1 == 2 && (s == 2 || a == b) && a % 2 != t.1 % 2)

/-- Whether the run `r` lower-cases to code points that no run holds and that are not the
capital I with dot above. -/
def imageSettled (r : Nat × Nat × Nat × Int) : Bool :=
  let a := ((r.1 : Int) + r.2.2.2).toNat
  let b := ((r.2.1 : Int) + r.2.2.2).toNat
  decide (0 ≤ (r.1 : Int) + r.2.2.2) && missesRun a b r.2.2.1 (0x130, 0x130, 1, 0) &&
    lowerRuns.all (missesRun a b r.2.2.1)

/-- The whole table: no run lower-cases into a run. -/
theorem lowerRuns_imageSettled : lowerRuns.all imageSettled = true := by decide +kernel

/-- A run that lower-cases apart from `t` sends each of its points outside `t`: the image of a
point lies between the images of the ends of its run and, where its run has step two or one
point, has the parity of the first. -/
theorem image_not_inRun {r t : Nat × Nat × Nat × Int} {n : Nat} (hn : InRun n r)
    (hpos : 0 ≤ (r.1 : Int) + r.2.2.2)
    (h : missesRun ((r.1 : Int) + r.2.2.2).toNat ((r.2.1 : Int) + r.2.2.2).toNat r.2.2.1 t = true) :
    ¬InRun ((n : Int) + r.2.2.2).toNat t := by
  obtain ⟨lo, hi, step, sh⟩ := r
  obtain ⟨lo', hi', step', sh'⟩ := t
  obtain ⟨hlo, hhi, hmod⟩ := hn
  simp only [missesRun, Bool.or_eq_true, decide_eq_true_eq, Bool.and_eq_true, beq_iff_eq,
    bne_iff_ne, ne_eq] at h hlo hhi hmod hpos
  rintro ⟨hlo', hhi', hmod'⟩
  simp only at hlo' hhi' hmod'
  rcases h with (h | h) | ⟨⟨rfl, hs⟩, hne⟩
  · omega
  · omega
  · -- a run of step two holds points of one parity only, and the image has the other
    rcases hs with rfl | hends
    · omega
    · omega

/-- A character outside every run, and not the capital I with dot above, is its own lower
case. -/
theorem lowerChar_eq_self {d : Char} (h130 : d.toNat ≠ 0x130)
    (hnone : runShift lowerRuns d.toNat = none) : lowerChar d = [d] := by
  simp [lowerChar, h130, hnone]

theorem lowerChar_ofNat_eq_self {m : Nat} (h130 : m ≠ 0x130) (hm : ∀ t ∈ lowerRuns, ¬InRun m t) :
    lowerChar (Char.ofNat m) = [Char.ofNat m] := by
  apply lowerChar_eq_self
  · rw [Char.toNat_ofNat]
    split <;> simp [h130]
  · rw [Char.toNat_ofNat]
    split
    · exact runShift_eq_none hm
    · decide +kernel

/-- Every character of a full lower case is its own lower case. -/
theorem lowerChar_settled (c : Char) : ∀ d ∈ lowerChar c, lowerChar d = [d] := by
  rw [lowerChar]
  split
  · -- the capital I with dot above becomes a small i and a combining dot, both small
    intro d hd
    simp only [List.mem_cons, List.not_mem_nil, or_false] at hd
    rcases hd with rfl | rfl <;> rfl
  · split
    · next shift hshift =>
      -- the image of the run that moves `c` lies outside every run
      obtain ⟨r, hr, hn, rfl⟩ := runShift_eq_some hshift
      have hsettled := List.all_eq_true.1 lowerRuns_imageSettled r hr
      simp only [imageSettled, Bool.and_eq_true, decide_eq_true_eq, List.all_eq_true] at hsettled
      obtain ⟨⟨hpos, h130⟩, hall⟩ := hsettled
      have hne : ((c.toNat : Int) + r.2.2.2).toNat ≠ 0x130 := fun he =>
        image_not_inRun hn hpos h130 (he ▸ ⟨le_refl _, le_refl _, by simp⟩)
      intro d hd
      rw [List.mem_singleton] at hd
      subst hd
      exact lowerChar_ofNat_eq_self hne fun t ht => image_not_inRun hn hpos (hall t ht)
    · next h130 _ hnone =>
      intro d hd
      rw [List.mem_singleton] at hd
      subst hd
      exact lowerChar_eq_self h130 hnone

theorem ne_sigma_of_settled {d : Char} (h : lowerChar d = [d]) : d ≠ 'Σ' := by
  rintro rfl
  exact absurd h (by decide)

/-- Everything lower-casing puts out is its own lower case, the forms of the sigma included. -/
theorem lowerFrom_settled (before cs : List Char) : ∀ d ∈ lowerFrom before cs, lowerChar d = [d] := by
  induction cs generalizing before with
  | nil => simp [lowerFrom]
  | cons c rest ih =>
    intro d hd
    simp only [lowerFrom, List.mem_append] at hd
    rcases hd with hd | hd
    · split at hd
      · -- both forms of the sigma are small letters
        split at hd <;> (rw [List.mem_singleton] at hd; subst hd; rfl)
      · exact lowerChar_settled c d hd
    · exact ih _ d hd

/-- Characters that are each their own lower case are lower-cased to themselves, in any
context. -/
theorem lowerFrom_of_settled {cs : List Char} (h : ∀ d ∈ cs, lowerChar d = [d])
    (before : List Char) : lowerFrom before cs = cs := by
  induction cs generalizing before with
  | nil => rfl
  | cons c rest ih =>
    have hc : lowerChar c = [c] := h c (List.mem_cons_self ..)
    rw [lowerFrom, if_neg (ne_sigma_of_settled hc), hc,
      ih (fun d hd => h d (List.mem_cons_of_mem c hd))]
    rfl

/-- Every character of a string in full lower case is its own lower case. -/
theorem settled_of_mem_toLower {s : String} {d : Char} (h : d ∈ (toLower s).toList) :
    lowerChar d = [d] := by
  rw [toLower, String.toList_ofList] at h
  exact lowerFrom_settled [] s.toList d h

theorem lowerChar_ne_self_of_asciiUpper {d : Char} (h₁ : 'A' ≤ d) (h₂ : d ≤ 'Z') :
    lowerChar d ≠ [d] := by
  have hcheck : (List.range 26).all (fun i => lowerChar (Char.ofNat (65 + i)) != [Char.ofNat (65 + i)]) = true := by
    decide +kernel
  have hd : d = Char.ofNat (65 + (d.toNat - 65)) := by
    have h65 : 65 ≤ d.toNat := h₁
    rw [Nat.add_sub_cancel' h65, Char.ofNat_toNat]
  have hi : d.toNat - 65 < 26 := by
    have : d.toNat ≤ 90 := h₂
    omega
  have := List.all_eq_true.1 hcheck _ (List.mem_range.2 hi)
  rw [← hd] at this
  simpa using this

/-- Full lower case is idempotent, and it puts out no capital ASCII letter. -/
theorem toLower_toLower (s : String) :
    toLower (toLower s) = toLower s ∧ ∀ d ∈ (toLower s).toList, ¬('A' ≤ d ∧ d ≤ 'Z') := by
  constructor
  · show String.ofList (lowerFrom [] (toLower s).toList) = toLower s
    rw [lowerFrom_of_settled (fun d hd => settled_of_mem_toLower hd), String.ofList_toList]
  · rintro d hd ⟨h₁, h₂⟩
    exact lowerChar_ne_self_of_asciiUpper h₁ h₂ (settled_of_mem_toLower hd)

end StochasticGrammar.Text

namespace StochasticGrammar

namespace Word

/-- A word in full lower case does not end in the comma marker, whose `C` is a capital. -/
theorem not_suffix_commaMarker_toLower (s : String) :
    ¬commaMarker.toList <:+ (Text.toLower s).toList := by
  intro h
  have hC : 'C' ∈ (Text.toLower s).toList := h.subset (by decide)
  exact (Text.toLower_toLower s).2 'C' hC ⟨by decide, by decide⟩

theorem hasCommaMarker_toLower (s : String) : hasCommaMarker (Text.toLower s) = false := by
  rw [hasCommaMarker, Bool.eq_false_iff, ne_eq, List.isSuffixOf_iff_suffix]
  exact not_suffix_commaMarker_toLower s

theorem normalize_of_hasCommaMarker_false {w : String} (h : hasCommaMarker w = false) :
    normalize w = Text.toLower w := by
  simp [normalize, stripCommaMarker, h]

/-- A normalized word is its own lower case, carries no marker, and is its own normal form. -/
theorem normalize_settled (w : String) :
    Text.toLower (normalize w) = normalize w ∧ ¬"_COMMA".toList <:+ (normalize w).toList ∧
      normalize (normalize w) = normalize w := by
  -- a normalized word is the full lower case of the word with its comma given back
  obtain ⟨s, hs⟩ : ∃ s, normalize w = Text.toLower s := ⟨_, rfl⟩
  have hlower : Text.toLower (normalize w) = normalize w := by
    rw [hs]
    exact (Text.toLower_toLower s).1
  refine ⟨hlower, ?_, ?_⟩
  · rw [hs]
    exact not_suffix_commaMarker_toLower s
  · rw [normalize_of_hasCommaMarker_false (by rw [hs]; exact hasCommaMarker_toLower s), hlower]

end Word

namespace Node

mutual
/-- Normalizing twice is normalizing once, word by word and group by group. -/
theorem normalize_normalize : (t : Node) → t.normalize.normalize = t.normalize
  | .word w => by simp only [normalize, (Word.normalize_settled w).2.2]
  | .group items => by simp only [normalize, normalizeItems_normalizeItems items]
theorem normalizeItems_normalizeItems : (items : List Node) →
    normalizeItems (normalizeItems items) = normalizeItems items
  | [] => rfl
  | t :: ts => by
    simp only [normalizeItems, normalize_normalize t, normalizeItems_normalizeItems ts]
end

end Node

/-- Normal form is idempotent on trees, and every word of a normalized tree is its own full lower
case and does not end in the comma marker `_COMMA`. -/
theorem normalize_idempotent (t : Node) :
    t.normalize.normalize = t.normalize ∧
      ∀ w ∈ t.normalize.words, Text.toLower w = w ∧ ¬"_COMMA".toList <:+ w.toList := by
  refine ⟨Node.normalize_normalize t, ?_⟩
  intro w hw
  rw [Node.words_normalize, List.mem_map] at hw
  obtain ⟨v, -, rfl⟩ := hw
  exact ⟨(Word.normalize_settled v).1, (Word.normalize_settled v).2.1⟩

end StochasticGrammar
