import Mathlib
import StochasticGrammar.Token
import StochasticGrammar.Normalize

/-! Reading back the text of a tree whose words are plain and do not run together. -/
namespace StochasticGrammar

namespace Word

/-- A word that reads back from its text: not empty, without white space or parentheses, and not
ending in a comma. -/
def IsPlain (w : String) : Prop :=
  w ≠ "" ∧ (∀ c ∈ w.toList, Text.isWhiteSpace c = false ∧ c ≠ '(' ∧ c ≠ ')') ∧
    w.toList.getLast? ≠ some ','

instance (w : String) : Decidable (IsPlain w) := inferInstanceAs (Decidable (_ ∧ _ ∧ _))

end Word

namespace Node

def isWord : Node → Bool
  | word _ => true
  | group _ => false

mutual
/-- Whether no group of the tree, at any depth, holds a punctuation word right after a word. -/
def spaced : Node → Bool
  | word _ => true
  | group items => spacedItems items
def spacedItems : List Node → Bool
  | [] => true
  | [t] => t.spaced
  | t :: u :: ts => !(t.isWord && u.attaches) && t.spaced && spacedItems (u :: ts)
end

theorem spacedItems_cons {t : Node} {ts : List Node} (h : spacedItems (t :: ts) = true) :
    (∀ u ∈ ts.head?, t.isWord = true → u.attaches = false) ∧ t.spaced = true ∧
      spacedItems ts = true := by
  cases ts with
  | nil => simpa [spacedItems] using h
  | cons u us =>
    simp only [spacedItems, Bool.and_eq_true, Bool.not_eq_true', Bool.and_eq_false_iff] at h
    obtain ⟨⟨hsep, ht⟩, hus⟩ := h
    refine ⟨?_, ht, hus⟩
    simp only [List.head?_cons, Option.mem_def, Option.some.injEq, forall_eq']
    intro hw
    simpa [hw] using hsep

end Node

namespace Body

@[simp] theorem flush_nil (items : List Node) : flush [] items = items := rfl

/-- The characters that end a word being read without being part of it. -/
def Separates (c : Char) : Prop := c = '(' ∨ c = ')' ∨ Text.isWhiteSpace c = true

theorem readFrom_open (cs read : List Char) (items : List Node) (outer : List (List Node)) :
    readFrom ('(' :: cs) read items outer = readFrom cs [] [] (flush read items :: outer) := by
  rw [readFrom]

theorem readFrom_close (cs read : List Char) (items parent : List Node)
    (outer : List (List Node)) :
    readFrom (')' :: cs) read items (parent :: outer) =
      readFrom cs [] (.group (flush read items).reverse :: parent) outer := by
  rw [readFrom]

theorem readFrom_other {c : Char} (h₁ : c ≠ '(') (h₂ : c ≠ ')') (cs read : List Char)
    (items : List Node) (outer : List (List Node)) :
    readFrom (c :: cs) read items outer =
      if Text.isWhiteSpace c then readFrom cs [] (flush read items) outer
      else readFrom cs (c :: read) items outer := by
  rw [readFrom] <;> simp_all

theorem readFrom_space (cs : List Char) (items : List Node) (outer : List (List Node)) :
    readFrom (' ' :: cs) [] items outer = readFrom cs [] items outer := by
  rw [readFrom_other (by decide) (by decide), if_pos (by decide), flush_nil]

theorem readFrom_word_chars {ws : List Char}
    (hws : ∀ c ∈ ws, Text.isWhiteSpace c = false ∧ c ≠ '(' ∧ c ≠ ')')
    (cs read : List Char) (items : List Node) (outer : List (List Node)) :
    readFrom (ws ++ cs) read items outer = readFrom cs (ws.reverse ++ read) items outer := by
  induction ws generalizing read with
  | nil => rfl
  | cons c ws ih =>
    obtain ⟨hw, h₁, h₂⟩ := hws c (List.mem_cons_self ..)
    rw [List.cons_append, readFrom_other h₁ h₂, hw, if_neg Bool.false_ne_true,
      ih (fun d hd => hws d (List.mem_cons_of_mem c hd))]
    simp

theorem readFrom_flush {cs : List Char} (hcs : ∀ c ∈ cs.head?, Separates c) (read : List Char)
    (items : List Node) (outer : List (List Node)) :
    readFrom cs read items outer = readFrom cs [] (flush read items) outer := by
  cases cs with
  | nil =>
    cases outer with
    | nil => simp [readFrom]
    | cons _ _ => simp [readFrom]
  | cons c cs =>
    rcases hcs c rfl with rfl | rfl | hw
    · simp [readFrom_open]
    · cases outer with
      | nil => simp [readFrom]
      | cons parent outer => simp [readFrom_close]
    · have h₁ : c ≠ '(' := by
        rintro rfl
        exact absurd hw (by decide)
      have h₂ : c ≠ ')' := by
        rintro rfl
        exact absurd hw (by decide)
      simp [readFrom_other h₁ h₂, hw]

theorem flush_plain {w : String} (hw : Word.IsPlain w) (items : List Node) :
    flush w.toList.reverse items = .word w :: items := by
  obtain ⟨hne, -, hlast⟩ := hw
  cases hr : w.toList.reverse with
  | nil =>
    have : w.toList = [] := List.reverse_eq_nil_iff.1 hr
    exact absurd (String.toList_eq_nil_iff.1 this) hne
  | cons c rest =>
    -- the character read last is the last of the word, and it is no comma
    have hc : c ≠ ',' := by
      intro hc
      apply hlast
      rw [← List.reverse_reverse w.toList, hr, hc]
      simp
    have hword : wordOfRead (c :: rest) = w := by
      rw [← hr]
      unfold wordOfRead
      split
      · next h => exact absurd (List.head_eq_of_cons_eq (hr.symm.trans h)) hc
      · simp
    simp [flush, hword]

end Body

namespace Node

open Body

mutual
/-- The text of a tree read from where nothing is being read: the tree joins the items read so
far, provided a word is followed by a separator or the end. -/
theorem readFrom_renderItem : (t : Node) → (∀ w ∈ t.words, Word.IsPlain w) →
    t.spaced = true →
    ∀ (cs : List Char), (t.isWord = true → ∀ c ∈ cs.head?, Separates c) →
    ∀ (items : List Node) (outer : List (List Node)),
      readFrom ((renderItem t).toList ++ cs) [] items outer = readFrom cs [] (t :: items) outer
  | .word w, hw, _, cs, hcs, items, outer => by
    have hplain : Word.IsPlain w := hw w (by simp)
    rw [renderItem, readFrom_word_chars hplain.2.1, List.append_nil, readFrom_flush (hcs rfl),
      flush_plain hplain]
  | .group ys, hw, hs, cs, _, items, outer => by
    -- the items are read in a sequence of their own, which the closing parenthesis ends
    have hin := readFrom_renderItems ys (by simpa using hw) (by simpa [spaced] using hs) true
      (')' :: cs) (by simp) [] (items :: outer)
    simp only [renderItem, String.toList_append, List.append_assoc]
    rw [show "(".toList = ['('] from rfl, show ")".toList = [')'] from rfl]
    simp only [List.cons_append]
    rw [readFrom_open, flush_nil]
    simp only [List.nil_append]
    rw [hin, readFrom_close]
    simp
/-- The text of a list of trees read from where nothing is being read, followed by the end or a
closing parenthesis: the trees join the items read so far. -/
theorem readFrom_renderItems : (xs : List Node) → (∀ w ∈ wordsOf xs, Word.IsPlain w) →
    spacedItems xs = true → ∀ (first : Bool) (cs : List Char), (∀ c ∈ cs.head?, c = ')') →
    ∀ (items : List Node) (outer : List (List Node)),
      readFrom ((renderItems first xs).toList ++ cs) [] items outer =
        readFrom cs [] (xs.reverse ++ items) outer
  | [], _, _, first, cs, _, items, outer => by simp [renderItems]
  | t :: ts, hw, hs, first, cs, hcs, items, outer => by
    obtain ⟨hsep, ht, hts⟩ := spacedItems_cons hs
    have hwt : ∀ w ∈ t.words, Word.IsPlain w := fun w h => hw w (by simp [h])
    have hwts : ∀ w ∈ wordsOf ts, Word.IsPlain w := fun w h => hw w (by simp [h])
    -- after a word comes a space, a closing parenthesis or the end
    have hnext : t.isWord = true →
        ∀ c ∈ ((renderItems false ts).toList ++ cs).head?, Separates c := by
      intro hword c hc
      cases ts with
      | nil =>
        have : c = ')' := hcs c (by simpa [renderItems] using hc)
        exact Or.inr (Or.inl this)
      | cons u us =>
        have hu : u.attaches = false := hsep u rfl hword
        simp only [renderItems, Bool.false_or, hu, String.toList_append,
          List.append_assoc] at hc
        have : ' ' = c := by simpa using hc
        subst this
        exact Or.inr (Or.inr (by decide))
    have hpre : readFrom ((if first || t.attaches then "" else " ").toList ++
        ((renderItem t).toList ++ ((renderItems false ts).toList ++ cs))) [] items outer =
        readFrom ((renderItem t).toList ++ ((renderItems false ts).toList ++ cs)) [] items
          outer := by
      split
      · rfl
      · rw [show " ".toList = [' '] from rfl, List.singleton_append, readFrom_space]
    simp only [renderItems, String.toList_append, List.append_assoc]
    rw [hpre, readFrom_renderItem t hwt ht _ hnext, readFrom_renderItems ts hwts hts false cs hcs]
    simp
end

end Node

/-- Render and read back: a list of trees whose words are all plain (not empty, without white
space or parentheses, not ending in a comma) and in which no group, the outermost included,
holds a punctuation word right after a word, reads back from the text of its group. -/
theorem Body.parse_render (xs : List Node) (hw : ∀ w ∈ Node.wordsOf xs, Word.IsPlain w)
    (hs : (Node.group xs).spaced = true) : Body.parse (Node.group xs).render = .ok xs := by
  have h := Node.readFrom_renderItems xs hw (by simpa [Node.spaced] using hs) true [] (by simp) []
    []
  rw [List.append_nil] at h
  simp only [Body.parse, Node.render, h, List.append_nil]
  simp [Body.readFrom, Body.flush]

/-- A word with the comma marker, a group that opens with a punctuation word, and a punctuation
word right after that group. -/
theorem Body.parse_render_punctuation :
    let xs := [Node.word "SAUCE_COMMA", .group [.word ".", .word "b"], .word "!"]
    (∀ w ∈ Node.wordsOf xs, Word.IsPlain w) ∧ (Node.group xs).spaced = true ∧
      Body.parse (Node.group xs).render = .ok xs := by
  intro xs
  have hw : ∀ w ∈ Node.wordsOf xs, Word.IsPlain w := by
    simp [xs, Word.IsPlain]
    decide
  have hs : (Node.group xs).spaced = true := by decide +kernel
  exact ⟨hw, hs, Body.parse_render xs hw hs⟩

end StochasticGrammar
