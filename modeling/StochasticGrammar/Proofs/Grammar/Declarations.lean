import Mathlib
import StochasticGrammar.Proofs.Grammar.Registry

/-! Grammars from declarations: the first refused declaration decides the error, and otherwise
every declaration is registered in order. The menu grammar parses. -/
namespace StochasticGrammar

namespace Grammar

variable {g : Grammar} {d : String × String}

theorem declare_of_isBlankName (h : isBlankName d.1 = true) :
    declare g d = .error (.invalidName d.1) := by
  simp [declare, readDeclaration, h, Except.map]

theorem declare_of_parse_error {e : BodyError} (hn : isBlankName d.1 = false)
    (hb : Body.parse d.2 = .error e) : declare g d = .error (.body d.1 e) := by
  simp [declare, readDeclaration, hn, hb, Except.map]

theorem declare_of_parse_ok {body : List Node} (hn : isBlankName d.1 = false)
    (hb : Body.parse d.2 = .ok body) : declare g d = .ok (g.register d.1 body) := by
  simp [declare, readDeclaration, hn, hb, Except.map]

/-- Declarations that are all accepted register their bodies one after the other. -/
theorem foldlM_declare_of_accepted {ds : List (String × String)} {parsed : String → List Node}
    (h : ∀ d ∈ ds, isBlankName d.1 = false ∧ Body.parse d.2 = .ok (parsed d.2))
    (acc : Grammar) :
    ds.foldlM declare acc = .ok (ds.foldl (fun g d => g.register d.1 (parsed d.2)) acc) := by
  induction ds generalizing acc with
  | nil => rfl
  | cons d ds ih =>
    obtain ⟨hn, hb⟩ := h d List.mem_cons_self
    rw [List.foldlM_cons, declare_of_parse_ok hn hb, List.foldl_cons]
    exact ih (fun d' hd' => h d' (List.mem_cons_of_mem d hd')) _

theorem foldlM_declare_eq_ok {ds : List (String × String)}
    (h : ∀ d ∈ ds, isBlankName d.1 = false ∧ ∃ nodes, Body.parse d.2 = .ok nodes)
    (acc : Grammar) : ∃ g, ds.foldlM declare acc = .ok g := by
  -- the body each text reads as, where it reads as one
  have hparsed : ∀ d ∈ ds, isBlankName d.1 = false ∧
      Body.parse d.2 = .ok ((Body.parse d.2).toOption.getD []) := by
    intro d hd
    obtain ⟨hn, nodes, hb⟩ := h d hd
    exact ⟨hn, by simp [hb, Except.toOption]⟩
  exact ⟨_, @foldlM_declare_of_accepted ds (fun s => (Body.parse s).toOption.getD []) hparsed
    acc⟩

theorem foldlM_declare_refused {pre post : List (String × String)} {err : GrammarError}
    (hpre : ∀ d ∈ pre, isBlankName d.1 = false ∧ ∃ nodes, Body.parse d.2 = .ok nodes)
    (hd : ∀ g, declare g d = .error err) (acc : Grammar) :
    (pre ++ d :: post).foldlM declare acc = .error err := by
  obtain ⟨g, hg⟩ := foldlM_declare_eq_ok hpre acc
  rw [List.foldlM_append, hg]
  change (d :: post).foldlM declare g = .error err
  rw [List.foldlM_cons, hd g]
  rfl

/-- Declarations make a grammar as follows. The first declaration, in the order of the list, whose
name is blank is refused with that name, before its body is read; the first whose body cannot be
read is refused with its name and the reading's error; what comes after a refused declaration is
not looked at. A list with no refused declaration gives the grammar that registers each name, as
written, with the body its text reads as, in order, from the empty grammar. Declarations read
from RON make the grammar that the list read makes. -/
theorem ofDeclarations_reports_first_refusal (ds : List (String × String))
    (parsed : String → List Node) :
    (∀ pre d post, ds = pre ++ d :: post →
      (∀ d' ∈ pre, isBlankName d'.1 = false ∧ ∃ nodes, Body.parse d'.2 = .ok nodes) →
        (isBlankName d.1 = true → ofDeclarations ds = .error (.invalidName d.1)) ∧
        (∀ e, isBlankName d.1 = false → Body.parse d.2 = .error e →
          ofDeclarations ds = .error (.body d.1 e))) ∧
    ((∀ d ∈ ds, isBlankName d.1 = false ∧ Body.parse d.2 = .ok (parsed d.2)) →
      ofDeclarations ds = .ok (ofList (ds.map fun d => (d.1, parsed d.2)))) ∧
    (∀ text, declarationsOfRon text = .ok ds → ofRon text = ofDeclarations ds) := by
  refine ⟨?_, ?_, ?_⟩
  · rintro pre d post rfl hpre
    refine ⟨fun hblank => ?_, fun e hn hb => ?_⟩
    · exact foldlM_declare_refused hpre (fun _ => declare_of_isBlankName hblank) empty
    · exact foldlM_declare_refused hpre (fun _ => declare_of_parse_error hn hb) empty
  · intro h
    rw [ofDeclarations, foldlM_declare_of_accepted h, ofList, List.foldl_map]
  · intro text h
    rw [ofRon, h]

/-- A blank name after an accepted declaration is reported, and the unclosed body after it is
not. -/
theorem ofDeclarations_reports_first_refusal_blankName :
    let pre := [("PASTA", "noodles SAUCE,")]
    (∀ d ∈ pre, isBlankName d.1 = false ∧ ∃ nodes, Body.parse d.2 = .ok nodes) ∧
      isBlankName " " = true ∧
      ofDeclarations (pre ++ (" ", "x") :: [("SAUCE", "(")]) = .error (.invalidName " ") := by
  intro pre
  have hpre : ∀ d ∈ pre, isBlankName d.1 = false ∧ ∃ nodes, Body.parse d.2 = .ok nodes := by
    simp only [pre, List.mem_singleton, forall_eq]
    exact ⟨by decide, [.word "noodles", .word "SAUCE_COMMA"], rfl⟩
  have hblank : isBlankName " " = true := by decide
  exact ⟨hpre, hblank,
    ((ofDeclarations_reports_first_refusal _ fun _ => []).1 pre _ _ rfl hpre).1 hblank⟩

/-- The bytes of lines each ended by a line feed. -/
theorem bytes_foldr_lines (ls : List String) :
    (ls.foldr (fun line text => line ++ "\n" ++ text) "").toUTF8.data.toList =
      ls.flatMap fun l => l.toUTF8.data.toList ++ [10] := by
  induction ls with
  | nil => rfl
  | cons l ls ih =>
    have hlf : "\n".toUTF8.data.toList = [10] := by decide
    simp only [List.foldr_cons, String.toUTF8, String.toByteArray_append, ByteArray.data_append,
      Array.toList_append] at ih hlf ⊢
    rw [ih, hlf, List.flatMap_cons, List.append_assoc]

/-- The menu grammar that comes with the library parses. -/
theorem menu_parses : ∃ m, menu = .ok m := by
  -- read line by line, the text is small enough for the kernel to parse
  have h : menu.toBool = true := by
    rw [menu, ofRon, declarationsOfRon, Ron.parse, Ron.Cursor.start, menuText, bytes_foldr_lines]
    decide +kernel
  cases hm : menu with
  | ok m => exact ⟨m, rfl⟩
  | error e =>
    rw [hm] at h
    cases h

end Grammar

end StochasticGrammar
