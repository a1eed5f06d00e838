import Mathlib
import StochasticGrammar.Proofs.Grammar.Merge
import StochasticGrammar.Proofs.Generator.Seeding
import StochasticGrammar.Proofs.Grammar.Declarations

/-! Building a generator: the settings are checked first, and the grammar is the merge of the
layers present into the empty grammar, whether or not the shared grammar is copied. -/
namespace StochasticGrammar

namespace Grammar

theorem insertEntry_of_not_mem {name : String} {es : List (String × List Node)}
    (h : name ∉ es.map Prod.fst) (body : List Node) :
    insertEntry name body es = es ++ [(name, body)] := by
  induction es with
  | nil => rfl
  | cons e rest ih =>
    obtain ⟨n, b⟩ := e
    simp only [List.map_cons, List.mem_cons, not_or] at h
    simp [insertEntry, Ne.symm h.1, ih h.2]

theorem foldl_register_of_fresh (es : List (String × List Node)) (acc : Grammar)
    (hnd : (es.map Prod.fst).Nodup) (hfresh : ∀ n ∈ es.map Prod.fst, n ∉ acc.names) :
    es.foldl (fun acc e => acc.register e.1 e.2) acc = ⟨acc.entries ++ es⟩ := by
  induction es generalizing acc with
  | nil => simp
  | cons e rest ih =>
    obtain ⟨n, b⟩ := e
    simp only [List.map_cons, List.nodup_cons] at hnd
    have hn : n ∉ acc.names := hfresh n List.mem_cons_self
    -- the first entry goes at the end, and the later names are still new
    have hreg : acc.register n b = ⟨acc.entries ++ [(n, b)]⟩ := by
      rw [register, insertEntry_of_not_mem hn]
    have hfresh' : ∀ m ∈ rest.map Prod.fst, m ∉ (acc.register n b).names := by
      intro m hm
      rw [names_register, if_neg hn, List.mem_append, List.mem_singleton, not_or]
      exact ⟨hfresh m (List.mem_cons_of_mem n hm), fun h => hnd.1 (h ▸ hm)⟩
    rw [List.foldl_cons, ih _ hnd.2 hfresh', hreg]
    simp

/-- Merging a grammar with distinct names into the empty grammar gives it back. -/
theorem empty_merge {g : Grammar} (h : g.names.Nodup) : empty.merge g = g := by
  obtain ⟨es⟩ := g
  exact foldl_register_of_fresh es empty h (by simp)

end Grammar

namespace Builder

/-- The layers a builder asks for, lowest first: the shared grammar, the menu grammar and the
builder's own grammar, each where it is present. -/
def layerList (b : Builder) (menu : Grammar) : List Grammar :=
  b.shared.toList ++ (if b.menu then [menu] else []) ++ b.grammar.toList

variable {b : Builder} {m : Grammar}

/-- Starting from the shared grammar itself, or from a copy, is merging it into the empty one. -/
theorem foldl_merge_shared (hS : ∀ S, b.shared = some S → S.names.Nodup) :
    b.shared.toList.foldl Grammar.merge Grammar.empty = b.shared.getD Grammar.empty := by
  cases h : b.shared with
  | none => rfl
  | some S => exact Grammar.empty_merge (hS S h)

theorem layers_eq (hm : b.menu = true → Grammar.menu = .ok m)
    (hS : ∀ S, b.shared = some S → S.names.Nodup) :
    b.layers = .ok ((b.layerList m).foldl Grammar.merge Grammar.empty) := by
  rw [layerList, List.foldl_append, List.foldl_append, foldl_merge_shared hS]
  cases hmenu : b.menu
  · cases hg : b.grammar <;> simp [layers, hmenu, hg] <;> rfl
  · cases hg : b.grammar <;> simp [layers, hmenu, hg, hm hmenu]

/-- Building a generator. The settings are the given ones or the defaults, each setting given
apart replacing its own; they are checked, the probability first, and a failed check is the only
way the build fails. Otherwise the generator holds those settings, the builder's seed and the
grammar that merges the layers present, shared, menu and own, in that order into the empty
grammar, which where the shared grammar is the only layer is the shared grammar itself. The
shared grammar is asked to have distinct names, as every grammar the library builds has
(`Grammar.Reachable.nodup_names`). -/
theorem build_resolution (hm : b.menu = true → Grammar.menu = .ok m)
    (hS : ∀ S, b.shared = some S → S.names.Nodup) :
    b.build =
      if Config.isProbability b.settings.initialProbability = false then
        .error (.config (.invalid (.probability b.settings.initialProbability)))
      else if b.settings.maxDepth = 0 then .error (.config (.invalid .depth))
      else .ok
        { grammar := (b.layerList m).foldl Grammar.merge Grammar.empty
          config := b.settings
          seed := b.seed } := by
  have hl := layers_eq hm hS
  unfold build
  -- the settings are checked first; past the check only the layers are read
  cases hp : Config.isProbability b.settings.initialProbability
  · simp [Config.check, hp]
    rfl
  · by_cases hd : b.settings.maxDepth = 0
    · simp [Config.check, hp, hd]
      rfl
    · simp [Config.check, hp, hd, hl]
      rfl

/-- A shared grammar, the menu grammar and a grammar of the builder's own, with given settings
whose fallback a setting given apart replaces. -/
theorem build_resolution_sharedMenuOwn :
    let b : Builder :=
      { shared := some ((Grammar.empty.register "MACARONI" [.word "noodles"]).register "CHEESE"
          [.word "aged"])
        menu := true
        grammar := some (Grammar.empty.register "CHEESE" [.word "grated"])
        seed := 42
        config := some { initialProbability := 0.5, maxDepth := 10 }
        fallback := some .grouped }
    ∃ m, (b.menu = true → Grammar.menu = .ok m) ∧
      (∀ S, b.shared = some S → S.names.Nodup) ∧
      b.build =
        if Config.isProbability b.settings.initialProbability = false then
          .error (.config (.invalid (.probability b.settings.initialProbability)))
        else if b.settings.maxDepth = 0 then .error (.config (.invalid .depth))
        else .ok
          { grammar := (b.layerList m).foldl Grammar.merge Grammar.empty
            config := b.settings
            seed := b.seed } := by
  intro b
  obtain ⟨m, hmenu⟩ := Grammar.menu_parses
  have hS : ∀ S, b.shared = some S → S.names.Nodup := by
    rintro S ⟨⟩
    exact (Grammar.Reachable.register _ _ (.register _ _ .empty)).nodup_names
  exact ⟨m, fun _ => hmenu, hS, build_resolution (fun _ => hmenu) hS⟩

end Builder

end StochasticGrammar
