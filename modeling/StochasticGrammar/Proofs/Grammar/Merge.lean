import Mathlib
import StochasticGrammar.Proofs.Grammar.Registry

/-! Layering grammars by merging: a name keeps its first place and takes its last body, so layers
give one registry however they are grouped. -/
namespace StochasticGrammar

namespace Grammar

theorem lookup_cons_eq_ite (m : String) (b : List Node) (es : List (String × List Node))
    (n : String) : ((m, b) :: es).lookup n = if n = m then some b else es.lookup n := by
  by_cases hn : n = m
  · subst hn
    simp
  · have hne : (n == m) = false := by simpa using hn
    simp [List.lookup_cons, hne, hn]

theorem lookup_insertEntry (name : String) (body : List Node) (es : List (String × List Node))
    (n : String) :
    (insertEntry name body es).lookup n = if n = name then some body else es.lookup n := by
  induction es with
  | nil => simp [insertEntry, lookup_cons_eq_ite]
  | cons e rest ih =>
    obtain ⟨m, b⟩ := e
    by_cases hm : m = name
    · -- the entry of the name is replaced where it stands
      subst hm
      by_cases hn : n = m <;> simp [insertEntry, lookup_cons_eq_ite, hn]
    · simp only [insertEntry, hm, if_false, lookup_cons_eq_ite, ih]
      by_cases hn : n = m
      · subst hn
        simp [hm]
      · simp [hn]

/-- Registering gives one name its new body and leaves every other lookup as it was. -/
theorem lookup_register (g : Grammar) (name : String) (body : List Node) (n : String) :
    (g.register name body).lookup n = if n = name then some body else g.lookup n :=
  lookup_insertEntry name body g.entries n

theorem lookup_eq_none_of_not_mem {es : List (String × List Node)} {n : String}
    (h : n ∉ es.map Prod.fst) : es.lookup n = none := by
  rw [List.lookup_eq_none_iff]
  intro p hp
  have hne : n ≠ p.1 := fun he => h (List.mem_map.2 ⟨p, hp, he.symm⟩)
  simpa using hne

section Fold

variable (es : List (String × List Node))

theorem names_foldl_register (h : (es.map Prod.fst).Nodup) (acc : Grammar) :
    (es.foldl (fun acc e => acc.register e.1 e.2) acc).names =
      acc.names ++ (es.map Prod.fst).filter (· ∉ acc.names) := by
  induction es generalizing acc with
  | nil => simp
  | cons e rest ih =>
    obtain ⟨m, b⟩ := e
    simp only [List.map_cons, List.nodup_cons] at h
    obtain ⟨hm, hrest⟩ := h
    simp only [List.foldl_cons, ih hrest, names_register, List.map_cons]
    by_cases hin : m ∈ acc.names
    · simp [hin]
    · -- the new name goes at the end, and no later entry has it
      have hfilter : (rest.map Prod.fst).filter (· ∉ acc.names ++ [m]) =
          (rest.map Prod.fst).filter (· ∉ acc.names) := by
        apply List.filter_congr
        intro x hx
        have hxm : x ≠ m := fun he => hm (he ▸ hx)
        simp [hxm]
      rw [if_neg hin, hfilter]
      simp [hin]

theorem lookup_foldl_register (h : (es.map Prod.fst).Nodup) (acc : Grammar) (n : String) :
    (es.foldl (fun acc e => acc.register e.1 e.2) acc).lookup n =
      (es.lookup n).or (acc.lookup n) := by
  induction es generalizing acc with
  | nil => simp
  | cons e rest ih =>
    obtain ⟨m, b⟩ := e
    simp only [List.map_cons, List.nodup_cons] at h
    obtain ⟨hm, hrest⟩ := h
    rw [List.foldl_cons, ih hrest, lookup_register, lookup_cons_eq_ite]
    by_cases hn : n = m
    · -- the registered body wins, since no later entry names it
      subst hn
      simp [lookup_eq_none_of_not_mem hm]
    · simp [hn]

end Fold

section Layers

variable {g h k : Grammar}

/-- The names of a merge: those of the lower grammar, then the names of the upper grammar that
are new, in its order. -/
theorem names_merge (hh : h.names.Nodup) :
    (g.merge h).names = g.names ++ h.names.filter (· ∉ g.names) :=
  names_foldl_register h.entries hh g

/-- A merge looks a name up in the upper grammar first and in the lower one after it. -/
theorem lookup_merge (hh : h.names.Nodup) (n : String) :
    (g.merge h).lookup n = (h.lookup n).or (g.lookup n) :=
  lookup_foldl_register h.entries hh g n

@[simp] theorem merge_empty (g : Grammar) : g.merge empty = g := rfl

theorem filter_not_mem_layer (xs ys zs : List String) :
    zs.filter (· ∉ xs ++ ys.filter (· ∉ xs)) = (zs.filter (· ∉ ys)).filter (· ∉ xs) := by
  rw [List.filter_filter]
  apply List.filter_congr
  intro z _
  by_cases hx : z ∈ xs <;> by_cases hy : z ∈ ys <;> simp [hx, hy]

theorem names_merge_assoc (hh : h.names.Nodup) (hk : k.names.Nodup) :
    ((g.merge h).merge k).names = (g.merge (h.merge k)).names := by
  have hhk : (h.merge k).names.Nodup := nodup_names_merge hh k
  rw [names_merge hk, names_merge hh, names_merge hhk, names_merge hk, List.filter_append,
    filter_not_mem_layer, List.append_assoc]

theorem lookup_merge_assoc (hh : h.names.Nodup) (hk : k.names.Nodup) (n : String) :
    ((g.merge h).merge k).lookup n = (g.merge (h.merge k)).lookup n := by
  have hhk : (h.merge k).names.Nodup := nodup_names_merge hh k
  rw [lookup_merge hk, lookup_merge hh, lookup_merge hhk, lookup_merge hk, Option.or_assoc]

theorem names_empty_merge (hg : g.names.Nodup) : (empty.merge g).names = g.names := by
  simp [names_merge hg]

theorem lookup_empty_merge (hg : g.names.Nodup) (n : String) :
    (empty.merge g).lookup n = g.lookup n := by
  simp [lookup_merge hg]

end Layers

/-- Merging grammars that registering and merging build: the names are those of the lower
grammar followed by the new names of the upper one in its order; a name looks up to the upper
body when the upper grammar has the name and to the lower one otherwise; and so, for names and
lookups, merging is associative with the empty grammar as identity on both sides. -/
theorem merge_layers {g h k : Grammar} (hg : g.Reachable) (hh : h.Reachable)
    (hk : k.Reachable) :
    (g.merge h).names = g.names ++ h.names.filter (· ∉ g.names) ∧
      (∀ n, (g.merge h).lookup n = if h.contains n then h.lookup n else g.lookup n) ∧
      ((g.merge h).merge k).names = (g.merge (h.merge k)).names ∧
      (∀ n, ((g.merge h).merge k).lookup n = (g.merge (h.merge k)).lookup n) ∧
      (empty.merge g).names = g.names ∧ (∀ n, (empty.merge g).lookup n = g.lookup n) ∧
      (g.merge empty).names = g.names ∧ (∀ n, (g.merge empty).lookup n = g.lookup n) := by
  have hgn := hg.nodup_names
  have hhn := hh.nodup_names
  have hkn := hk.nodup_names
  have hlookup : ∀ n, (g.merge h).lookup n = if h.contains n then h.lookup n else g.lookup n := by
    intro n
    rw [lookup_merge hhn, contains]
    cases h.lookup n <;> simp
  exact ⟨names_merge hhn, hlookup, names_merge_assoc hhn hkn, lookup_merge_assoc hhn hkn,
    names_empty_merge hgn, lookup_empty_merge hgn, by simp, by simp⟩

/-- The layers of the library's own test: the upper grammar overrides `SHARED` and adds `NEW`,
and a third layer overrides `BASE_ONLY` and adds `EXTRA`. -/
theorem merge_layers_overrides :
    let g := (empty.register "SHARED" [.word "base"]).register "BASE_ONLY" [.word "b"]
    let h := (empty.register "NEW" [.word "n"]).register "SHARED" [.word "override"]
    let k := (empty.register "BASE_ONLY" [.word "c"]).register "EXTRA" []
    g.Reachable ∧ h.Reachable ∧ k.Reachable ∧
      (g.merge h).names = g.names ++ h.names.filter (· ∉ g.names) ∧
      (∀ n, (g.merge h).lookup n = if h.contains n then h.lookup n else g.lookup n) ∧
      ((g.merge h).merge k).names = (g.merge (h.merge k)).names ∧
      (∀ n, ((g.merge h).merge k).lookup n = (g.merge (h.merge k)).lookup n) ∧
      (empty.merge g).names = g.names ∧ (∀ n, (empty.merge g).lookup n = g.lookup n) ∧
      (g.merge empty).names = g.names ∧ (∀ n, (g.merge empty).lookup n = g.lookup n) := by
  intro g h k
  have hg : g.Reachable := .register _ _ (.register _ _ .empty)
  have hh : h.Reachable := .register _ _ (.register _ _ .empty)
  have hk : k.Reachable := .register _ _ (.register _ _ .empty)
  exact ⟨hg, hh, hk, merge_layers hg hh hk⟩

end Grammar

end StochasticGrammar
