import Mathlib
import StochasticGrammar.Proofs.Body.Errors

/-! The tree that reading a body builds is the bracket tree of its text: `Reads` is the grammar of
body texts, and reading succeeds with a list exactly when the text reads as that list. -/
namespace StochasticGrammar

namespace Body

instance : DecidablePred Separates := fun c =>
  inferInstanceAs (Decidable (c = '(' ∨ c = ')' ∨ Text.isWhiteSpace c = true))

/-- The runs of a text: its maximal pieces without white space or parentheses, in order. -/
def wordRuns (cs : List Char) : List (List Char) :=
  (cs.splitOnP fun c => decide (Separates c)).filter (· ≠ [])

def encodeRun (run : List Char) : String :=
  if run.getLast? = some ',' then String.ofList run.dropLast ++ "_COMMA" else String.ofList run

/-- The most groups open at once while a text is read from the left, `d` being open before it. -/
def nestingFrom (d : Nat) : List Char → Nat
  | [] => d
  | c :: cs => max d (nestingFrom (if c = '(' then d + 1 else if c = ')' then d - 1 else d) cs)

def nesting (cs : List Char) : Nat := nestingFrom 0 cs

/-- `Reads cs xs`: the text `cs` is the list of trees `xs` written out. White space separates; a
run of characters that are neither white space nor parentheses, followed by a separator or the
end, is one word; an opening parenthesis, a text that reads, and a closing parenthesis are one
group, so each group stands for a matched pair of parentheses and holds what reads between
them. -/
inductive Reads : List Char → List Node → Prop
  | nil : Reads [] []
  | blank {c : Char} {cs : List Char} {xs : List Node} (white : Text.isWhiteSpace c = true)
      (rest : Reads cs xs) : Reads (c :: cs) xs
  | word {run cs : List Char} {xs : List Node} (nonempty : run ≠ [])
      (plain : ∀ c ∈ run, ¬Separates c) (ends : ∀ c ∈ cs.head?, Separates c)
      (rest : Reads cs xs) : Reads (run ++ cs) (.word (encodeRun run) :: xs)
  | group {inner cs : List Char} {ys xs : List Node} (items : Reads inner ys)
      (rest : Reads cs xs) : Reads ('(' :: inner ++ ')' :: cs) (.group ys :: xs)

theorem not_separates_iff (c : Char) :
    ¬Separates c ↔ Text.isWhiteSpace c = false ∧ c ≠ '(' ∧ c ≠ ')' := by
  simp only [Separates, not_or, Bool.not_eq_true]
  tauto

theorem separates_of_isWhiteSpace {c : Char} (h : Text.isWhiteSpace c = true) : Separates c :=
  Or.inr (Or.inr h)

theorem ne_paren_of_isWhiteSpace {c : Char} (h : Text.isWhiteSpace c = true) :
    c ≠ '(' ∧ c ≠ ')' := by
  constructor <;> (rintro rfl; exact absurd h (by decide))

/-! ### Running the grammar -/

theorem wordOfRead_reverse {run : List Char} (h : run ≠ []) :
    wordOfRead run.reverse = encodeRun run := by
  obtain ⟨init, c, rfl⟩ := (List.eq_nil_or_concat' run).resolve_left h
  simp only [List.reverse_append, List.reverse_singleton, List.singleton_append, encodeRun,
    List.getLast?_concat, List.dropLast_concat, Option.some.injEq]
  by_cases hc : c = ','
  · subst hc
    simp [wordOfRead, Word.commaMarker]
  · rw [if_neg hc]
    unfold wordOfRead
    split
    · next h => exact absurd (List.cons.inj h).1 hc
    · simp

theorem flush_run {run : List Char} (h : run ≠ []) (items : List Node) :
    flush run.reverse items = .word (encodeRun run) :: items := by
  simp [flush, h, wordOfRead_reverse h]

/-- A text that reads as `xs`, read where nothing is being read and followed by a separator or
the end, adds `xs` to the open sequence and leaves the stack as it was. -/
theorem Reads.readFrom {cs : List Char} {xs : List Node} (h : Reads cs xs) :
    ∀ {rest : List Char}, (∀ c ∈ rest.head?, Separates c) →
      ∀ (items : List Node) (outer : List (List Node)),
        Body.readFrom (cs ++ rest) [] items outer = Body.readFrom rest [] (xs.reverse ++ items) outer := by
  induction h with
  | nil => intros; simp
  | blank hw _ ih =>
    intro rest hrest items outer
    obtain ⟨h₁, h₂⟩ := ne_paren_of_isWhiteSpace hw
    rw [List.cons_append, readFrom_other h₁ h₂, if_pos hw, flush_nil, ih hrest]
  | @word run cs xs hne hplain hends _ ih =>
    intro rest hrest items outer
    have hchars : ∀ c ∈ run, Text.isWhiteSpace c = false ∧ c ≠ '(' ∧ c ≠ ')' :=
      fun c hc => (not_separates_iff c).1 (hplain c hc)
    -- the run is read whole, and what follows it ends the word
    have hnext : ∀ c ∈ (cs ++ rest).head?, Separates c := by
      intro c hc
      rw [List.head?_append] at hc
      cases hcs : cs.head? with
      | none => exact hrest c (by simpa [hcs] using hc)
      | some d => exact hends c (by simpa [hcs] using hc)
    rw [List.append_assoc, readFrom_word_chars hchars, List.append_nil, readFrom_flush hnext,
      flush_run hne, ih hrest]
    simp
  | @group inner cs ys xs _ _ ihin ihcs =>
    intro rest hrest items outer
    -- the items are read as a sequence of their own, which the closing parenthesis ends
    have hclose : ∀ c ∈ (')' :: (cs ++ rest)).head?, Separates c := by
      simp [Separates]
    simp only [List.cons_append, List.append_assoc]
    rw [readFrom_open, flush_nil, ihin hclose, readFrom_close, ihcs hrest]
    simp

theorem Reads.parse {s : String} {xs : List Node} (h : Reads s.toList xs) :
    Body.parse s = .ok xs := by
  have hrun : Body.readFrom (s.toList ++ []) [] [] [] = Body.readFrom [] [] (xs.reverse ++ []) [] :=
    h.readFrom (by simp) [] []
  rw [List.append_nil] at hrun
  simp [Body.parse, hrun, Body.readFrom, flush]

/-! ### Every accepted text reads -/

/-- `Closes k cs`: the text reads as a list of trees, then closes `k` groups, each closing
parenthesis followed by more text that reads. -/
inductive Closes : Nat → List Char → Prop
  | reads {cs : List Char} {xs : List Node} (whole : Reads cs xs) : Closes 0 cs
  | close {r rest : List Char} {xs : List Node} {k : Nat} (first : Reads r xs)
      (after : Closes k rest) : Closes (k + 1) (r ++ ')' :: rest)

/-- Text put in front of a text that closes `k` groups joins its first part; so a prefix that
keeps every text readable keeps it closing `k` groups. -/
theorem Closes.prepend {pre : List Char} (hpre : ∀ r xs, Reads r xs → ∃ ys, Reads (pre ++ r) ys)
    {k : Nat} {cs : List Char} (h : Closes k cs) : Closes k (pre ++ cs) := by
  cases h with
  | reads hr =>
    obtain ⟨ys, hys⟩ := hpre _ _ hr
    exact .reads hys
  | close hr hafter =>
    obtain ⟨ys, hys⟩ := hpre _ _ hr
    rw [← List.append_assoc]
    exact .close hys hafter

theorem Reads.cons_plain {c : Char} (hc : ¬Separates c) {r : List Char} {xs : List Node}
    (h : Reads r xs) : ∃ ys, Reads ([c] ++ r) ys := by
  have hplain : ∀ d ∈ [c], ¬Separates d := by simpa using hc
  cases h with
  | nil => exact ⟨_, .word (List.cons_ne_nil c []) hplain (by simp) .nil⟩
  | blank hw hrest =>
    exact ⟨_, .word (List.cons_ne_nil c []) hplain (by simpa using separates_of_isWhiteSpace hw)
      (.blank hw hrest)⟩
  | @word run cs xs hne hrun hends hrest =>
    refine ⟨.word (encodeRun ([c] ++ run)) :: xs, ?_⟩
    rw [← List.append_assoc]
    exact .word (List.append_ne_nil_of_left_ne_nil (List.cons_ne_nil c []) _)
      (List.forall_mem_append.2 ⟨hplain, hrun⟩) hends hrest
  | group hin hrest =>
    exact ⟨_, .word (List.cons_ne_nil c []) hplain (by simp [Separates]) (.group hin hrest)⟩

/-- An opening parenthesis in front of a text that closes one group more makes that group the
first tree of the first part. -/
theorem Closes.open {k : Nat} {cs : List Char} (h : Closes (k + 1) cs) : Closes k ('(' :: cs) := by
  cases h with
  | close hr hafter =>
    have hpre : ∀ r' xs', Reads r' xs' → ∃ ys, Reads (('(' :: _ ++ [')']) ++ r') ys :=
      fun r' xs' h' => ⟨_, by simpa using Reads.group hr h'⟩
    simpa using hafter.prepend hpre

/-- A text that never overcloses the `k` groups open before it and closes all of them splits into
`k + 1` parts that read. -/
theorem closes_of_balanced (cs : List Char) :
    ∀ k, ¬Overcloses k cs → cs.count ')' = k + cs.count '(' → Closes k cs := by
  induction cs with
  | nil =>
    intro k _ hcount
    have hk : k = 0 := by simpa using hcount.symm
    subst hk
    exact .reads .nil
  | cons c cs ih =>
    intro k hover hcount
    by_cases h₁ : c = '('
    · subst h₁
      apply Closes.open
      exact ih (k + 1) (overcloses_open.not.1 hover) (by simp at hcount; omega)
    by_cases h₂ : c = ')'
    · subst h₂
      cases k with
      | zero => exact absurd (overcloses_close_zero cs) hover
      | succ k =>
        have hrest := ih k (overcloses_close_succ.not.1 hover) (by simp at hcount; omega)
        exact Closes.close (r := []) .nil hrest
    · -- a blank or a word character joins the first part
      have hrest := ih k ((overcloses_other h₁ h₂).not.1 hover)
        (by rwa [List.count_cons_of_ne h₁, List.count_cons_of_ne h₂] at hcount)
      show Closes k ([c] ++ cs)
      by_cases hw : Text.isWhiteSpace c = true
      · exact hrest.prepend fun _ _ h => ⟨_, .blank hw h⟩
      · have hplain : ¬Separates c := by simp [Separates, h₁, h₂, hw]
        exact hrest.prepend fun _ _ h => h.cons_plain hplain

/-- Reading succeeds with `xs` exactly when the text reads as `xs`. -/
theorem parse_eq_ok_iff {s : String} {xs : List Node} :
    Body.parse s = .ok xs ↔ Reads s.toList xs := by
  constructor
  · intro h
    -- reading succeeded, so the text is balanced, so it has a derivation, which reading follows
    have hover : ¬Overcloses 0 s.toList := fun ho => by
      rw [Body.parse, (readFrom_eq_unmatchedClose_iff s.toList [] [] []).2 ho] at h
      cases h
    have hopen : ¬s.toList.count ')' < 0 + s.toList.count '(' := fun hlt => by
      rw [Body.parse, (readFrom_eq_unclosed_iff s.toList [] [] []).2 ⟨hover, hlt⟩] at h
      cases h
    have hle := count_close_le_of_not_overcloses hover
    cases closes_of_balanced s.toList 0 hover (by omega) with
    | reads hys =>
      rw [hys.parse] at h
      cases h
      exact hys
  · exact Reads.parse

/-! ### The words and the depth of a reading -/

theorem wordRuns_nil : wordRuns [] = [] := by
  simp [wordRuns]

theorem wordRuns_append_separator {c : Char} (hc : Separates c) (xs ys : List Char) :
    wordRuns (xs ++ c :: ys) = wordRuns xs ++ wordRuns ys := by
  simp [wordRuns, List.splitOnP_append_cons xs ys (p := fun c => decide (Separates c)) (by simpa),
    List.filter_append]

theorem wordRuns_separator_cons {c : Char} (hc : Separates c) (ys : List Char) :
    wordRuns (c :: ys) = wordRuns ys := by
  simpa [wordRuns_nil] using wordRuns_append_separator hc [] ys

theorem wordRuns_run {run cs : List Char} (hne : run ≠ []) (hplain : ∀ c ∈ run, ¬Separates c)
    (hends : ∀ c ∈ cs.head?, Separates c) : wordRuns (run ++ cs) = run :: wordRuns cs := by
  have hsingle : wordRuns run = [run] := by
    rw [wordRuns, List.splitOnP_eq_singleton (by simpa using hplain)]
    simp [hne]
  cases cs with
  | nil => simpa [wordRuns_nil] using hsingle
  | cons d ds =>
    have hd : Separates d := hends d rfl
    rw [wordRuns_append_separator hd, hsingle, wordRuns_separator_cons hd]
    rfl

/-- The words of a reading are the runs of its text, each encoded. -/
theorem Reads.wordsOf_eq {cs : List Char} {xs : List Node} (h : Reads cs xs) :
    Node.wordsOf xs = (wordRuns cs).map encodeRun := by
  induction h with
  | nil => simp [wordRuns_nil]
  | blank hw _ ih => rw [wordRuns_separator_cons (separates_of_isWhiteSpace hw), ih]
  | word hne hplain hends _ ih => simp [wordRuns_run hne hplain hends, ih]
  | @group inner cs ys xs _ _ ihin ihcs =>
    have hopen : Separates '(' := Or.inl rfl
    have hclose : Separates ')' := Or.inr (Or.inl rfl)
    rw [wordRuns_append_separator hclose, wordRuns_separator_cons hopen]
    simp [ihin, ihcs]

theorem le_nestingFrom (d : Nat) (cs : List Char) : d ≤ nestingFrom d cs := by
  cases cs with
  | nil => exact le_refl d
  | cons c cs => exact le_max_left _ _

theorem nestingFrom_append_plain {run : List Char} (hrun : ∀ c ∈ run, c ≠ '(' ∧ c ≠ ')')
    (d : Nat) (cs : List Char) : nestingFrom d (run ++ cs) = nestingFrom d cs := by
  induction run with
  | nil => rfl
  | cons c run ih =>
    obtain ⟨h₁, h₂⟩ := hrun c (List.mem_cons_self ..)
    rw [List.cons_append, nestingFrom, if_neg h₁, if_neg h₂,
      ih (fun d hd => hrun d (List.mem_cons_of_mem c hd))]
    exact max_eq_right (le_nestingFrom d cs)

/-- A text that reads as `xs`, read with `d` groups open, reaches `d` plus the depth of `xs`
and comes back to `d`. -/
theorem Reads.nestingFrom_append {cs : List Char} {xs : List Node} (h : Reads cs xs) :
    ∀ (d : Nat) (rest : List Char),
      nestingFrom d (cs ++ rest) = max (d + Node.depthOf xs) (nestingFrom d rest) := by
  induction h with
  | nil =>
    intro d rest
    simp [Node.depthOf, le_nestingFrom]
  | blank hw _ ih =>
    intro d rest
    rw [List.cons_append, ← List.singleton_append,
      nestingFrom_append_plain (by simpa using ne_paren_of_isWhiteSpace hw), ih]
  | word _ hplain _ _ ih =>
    intro d rest
    have hrun : ∀ c ∈ _, c ≠ '(' ∧ c ≠ ')' := fun c hc => ((not_separates_iff c).1 (hplain c hc)).2
    rw [List.append_assoc, nestingFrom_append_plain hrun, ih]
    simp [Node.depthOf, Node.depth]
  | @group inner cs ys xs _ _ ihin ihcs =>
    intro d rest
    simp only [List.cons_append, List.append_assoc]
    rw [nestingFrom, if_pos rfl, ihin, nestingFrom, if_neg (by decide), if_pos rfl,
      Nat.add_sub_cancel, ihcs]
    simp only [Node.depthOf, Node.depth]
    omega

/-- The depth of a reading is the deepest nesting of its text. -/
theorem Reads.depthOf_eq {cs : List Char} {xs : List Node} (h : Reads cs xs) :
    Node.depthOf xs = nesting cs := by
  have hrun := h.nestingFrom_append 0 []
  rw [List.append_nil] at hrun
  simp [nesting, hrun, nestingFrom]

/-- Reading a body text builds its bracket tree: the words of the result are the maximal runs of
the text without white space or parentheses, in order, one final comma of each written as the
comma marker; the groups are the matched pairs of parentheses of the text, in order, each
holding exactly the runs and groups that stand directly between its parentheses; and the depth
of the result as a group is one more than the deepest nesting of parentheses in the text. -/
theorem parse_bracketTree {s : String} {xs : List Node} (h : Body.parse s = .ok xs) :
    (Node.group xs).words = (wordRuns s.toList).map encodeRun ∧ Reads s.toList xs ∧
      (Node.group xs).depth = 1 + nesting s.toList := by
  have hreads := parse_eq_ok_iff.1 h
  refine ⟨hreads.wordsOf_eq, hreads, ?_⟩
  rw [Node.depth, hreads.depthOf_eq, Nat.add_comm]

/-- Trailing commas, a lone comma, a double comma and two groups, one inside the other. -/
theorem parse_bracketTree_commas :
    Body.parse "SAUCE, (a,, (b c)) , x" =
        .ok [.word "SAUCE_COMMA", .group [.word "a,_COMMA", .group [.word "b", .word "c"]],
          .word "_COMMA", .word "x"] ∧
      (Node.group [.word "SAUCE_COMMA", .group [.word "a,_COMMA", .group [.word "b", .word "c"]],
          .word "_COMMA", .word "x"]).words = (wordRuns "SAUCE, (a,, (b c)) , x".toList).map encodeRun ∧
      Reads "SAUCE, (a,, (b c)) , x".toList [.word "SAUCE_COMMA",
        .group [.word "a,_COMMA", .group [.word "b", .word "c"]], .word "_COMMA", .word "x"] ∧
      (Node.group [.word "SAUCE_COMMA", .group [.word "a,_COMMA", .group [.word "b", .word "c"]],
          .word "_COMMA", .word "x"]).depth = 1 + nesting "SAUCE, (a,, (b c)) , x".toList := by
  have h : Body.parse "SAUCE, (a,, (b c)) , x" =
      .ok [.word "SAUCE_COMMA", .group [.word "a,_COMMA", .group [.word "b", .word "c"]],
        .word "_COMMA", .word "x"] := by
    rfl
  exact ⟨h, parse_bracketTree h⟩

end Body

end StochasticGrammar
