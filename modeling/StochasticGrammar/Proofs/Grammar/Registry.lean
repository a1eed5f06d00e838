import Mathlib
import StochasticGrammar.Grammar.Declarations

/-! The registry's invariant, its order listing each name with a body exactly once, and its
refinement of an association list with distinct keys. -/
namespace StochasticGrammar

namespace Grammar

/-- Registering in an association list with distinct keys: the value of a key that is present
is replaced where it stands, and a new key goes at the end with its value. -/
def upsert (L : List (String × List Node)) (name : String) (body : List Node) :
    List (String × List Node) :=
  if name ∈ L.map Prod.fst then L.map fun e => if e.1 = name then (name, body) else e
  else L ++ [(name, body)]

/-- The grammars that registering and merging build from the empty grammar, which is also the
default one. Any grammar may be merged in. -/
inductive Reachable : Grammar → Prop
  | empty : Reachable empty
  | register {g : Grammar} (name : String) (body : List Node) :
      Reachable g → Reachable (g.register name body)
  | merge {g : Grammar} (other : Grammar) : Reachable g → Reachable (g.merge other)

theorem map_replace_of_not_mem {L : List (String × List Node)} {name : String}
    (h : name ∉ L.map Prod.fst) (body : List Node) :
    (L.map fun e => if e.1 = name then (name, body) else e) = L := by
  induction L with
  | nil => rfl
  | cons e rest ih =>
    simp only [List.map_cons, List.mem_cons, not_or] at h
    simp [Ne.symm h.1, ih h.2]

theorem upsert_cons_of_ne {m name : String} (b : List Node) (rest : List (String × List Node))
    (hne : m ≠ name) (body : List Node) :
    upsert ((m, b) :: rest) name body = (m, b) :: upsert rest name body := by
  unfold upsert
  by_cases hmem : name ∈ rest.map Prod.fst
  · simp [hmem, hne]
  · simp [hmem, Ne.symm hne]

/-- On distinct keys, registering an entry is registering in an association list. -/
theorem insertEntry_eq_upsert {es : List (String × List Node)} (h : (es.map Prod.fst).Nodup)
    (name : String) (body : List Node) : insertEntry name body es = upsert es name body := by
  induction es with
  | nil => simp [insertEntry, upsert]
  | cons e rest ih =>
    obtain ⟨m, b⟩ := e
    simp only [List.map_cons, List.nodup_cons] at h
    obtain ⟨hm, hrest⟩ := h
    by_cases hmn : m = name
    · -- the head holds the name and no later entry does
      subst hmn
      simp [insertEntry, upsert, map_replace_of_not_mem hm]
    · simp only [insertEntry, hmn, if_false, ih hrest, upsert_cons_of_ne b rest hmn]

theorem nodup_names_register {g : Grammar} (h : g.names.Nodup) (name : String) (body : List Node) :
    (g.register name body).names.Nodup := by
  rw [names_register]
  split
  · exact h
  · next hmem => exact h.append (List.nodup_singleton name) (by simpa using hmem)

theorem nodup_names_merge {g : Grammar} (h : g.names.Nodup) (other : Grammar) :
    (g.merge other).names.Nodup := by
  obtain ⟨es⟩ := other
  unfold merge
  -- merging registers the entries one by one, each keeping the names distinct
  induction es generalizing g with
  | nil => exact h
  | cons e es ih => exact ih (nodup_names_register h e.1 e.2)

/-- The grammars that registering and merging build have distinct names. -/
theorem Reachable.nodup_names {g : Grammar} (h : g.Reachable) : g.names.Nodup := by
  induction h with
  | empty => exact List.nodup_nil
  | register name body _ ih => exact nodup_names_register ih name body
  | merge other _ ih => exact nodup_names_merge ih other

end Grammar

namespace Registry

open Grammar (upsert)

variable {r : Registry} {name : String} {body : List Node}

@[simp] theorem lookup_register (n : String) :
    (r.register name body).lookup n = if n = name then some body else r.lookup n := rfl

@[simp] theorem contains_register (n : String) :
    (r.register name body).contains n = (decide (n = name) || r.contains n) := by
  by_cases h : n = name <;> simp [contains, register, insertBody, h]

theorem order_register :
    (r.register name body).order = if r.contains name then r.order else r.order ++ [name] := by
  cases h : r.bodies name <;> simp [register, insertBody, contains, h]

theorem drain_eq (r : Registry) (m : String → Option (List Node)) (x : String) :
    drain (r, m) x = ((m x).elim r (r.register x), (removeBody m x).2) := by
  cases h : m x <;> simp [drain, removeBody, h]

/-- The registry's invariant: the order lists each name once, and exactly the names that have a
body. -/
structure WellFormed (r : Registry) : Prop where
  nodup : r.order.Nodup
  mem_order : ∀ n, n ∈ r.order ↔ r.contains n = true

theorem wellFormed_empty : empty.WellFormed :=
  ⟨List.nodup_nil, by simp [empty, contains]⟩

theorem WellFormed.register (h : r.WellFormed) (name : String) (body : List Node) :
    (r.register name body).WellFormed := by
  by_cases hc : r.contains name = true
  · -- the name is listed already, and only its body changes
    refine ⟨by simpa [order_register, hc] using h.nodup, fun n => ?_⟩
    rw [order_register, if_pos hc, contains_register, h.mem_order]
    by_cases hn : n = name <;> simp [hn, hc]
  · have hname : name ∉ r.order := fun hm => hc ((h.mem_order name).1 hm)
    refine ⟨?_, fun n => ?_⟩
    · rw [order_register, if_neg hc]
      exact h.nodup.append (List.nodup_singleton name) (by simpa using hname)
    · rw [order_register, if_neg hc, contains_register, List.mem_append, h.mem_order]
      by_cases hn : n = name <;> simp [hn, hc]

theorem WellFormed.foldl_drain (h : r.WellFormed) (ns : List String)
    (m : String → Option (List Node)) : (ns.foldl drain (r, m)).1.WellFormed := by
  induction ns generalizing r m with
  | nil => exact h
  | cons x xs ih =>
    rw [List.foldl_cons, drain_eq]
    cases m x with
    | none => exact ih h _
    | some b => exact ih (h.register x b) _

theorem WellFormed.merge (h : r.WellFormed) (other : Registry) : (r.merge other).WellFormed :=
  h.foldl_drain other.order other.bodies

/-- Draining distinct names registers, in order, the bodies the map holds for them: taking a
body out never hides one that a later name needs. -/
theorem foldl_drain_of_nodup {ns : List String} (hns : ns.Nodup) (r : Registry)
    (m : String → Option (List Node)) :
    (ns.foldl drain (r, m)).1 =
      (ns.filterMap fun n => (m n).map (n, ·)).foldl (fun acc e => acc.register e.1 e.2) r := by
  induction ns generalizing r m with
  | nil => rfl
  | cons x xs ih =>
    rw [List.nodup_cons] at hns
    have hrest : (xs.filterMap fun n => ((removeBody m x).2 n).map (n, ·)) =
        xs.filterMap fun n => (m n).map (n, ·) := by
      apply List.filterMap_congr
      intro n hn
      have hne : n ≠ x := fun h => hns.1 (h ▸ hn)
      simp [removeBody, hne]
    rw [List.foldl_cons, drain_eq, ih hns.2, hrest]
    cases hx : m x <;> simp [hx]

/-- Merging a registry whose order has no repeat registers its productions in its order. -/
theorem merge_eq_foldl_register {other : Registry} (h : other.order.Nodup) (r : Registry) :
    r.merge other = other.iter.foldl (fun acc e => acc.register e.1 e.2) r :=
  foldl_drain_of_nodup h r other.bodies

/-- The registries that registering and merging build from the empty one. Any registry may be
merged in: merging drains the other's map by its order, whatever its state. -/
inductive Reachable : Registry → Prop
  | empty : Reachable empty
  | register {r : Registry} (name : String) (body : List Node) :
      Reachable r → Reachable (r.register name body)
  | merge {r : Registry} (other : Registry) : Reachable r → Reachable (r.merge other)

theorem Reachable.wellFormed (h : r.Reachable) : r.WellFormed := by
  induction h with
  | empty => exact wellFormed_empty
  | register name body _ ih => exact ih.register name body
  | merge other _ ih => exact ih.merge other

theorem declare_eq_ok {r r' : Registry} {d : String × String} (h : r.declare d = .ok r') :
    ∃ p : String × List Node, r' = r.register p.1 p.2 := by
  unfold declare at h
  cases hd : Grammar.readDeclaration d with
  | error e => simp [hd, Except.map] at h
  | ok p =>
    simp only [hd, Except.map, Except.ok.injEq] at h
    exact ⟨p, h.symm⟩

theorem Reachable.foldlM_declare {decls : List (String × String)} {acc r : Registry}
    (hacc : acc.Reachable) (hfold : decls.foldlM declare acc = .ok r) : r.Reachable := by
  induction decls generalizing acc with
  | nil =>
    change Except.ok acc = Except.ok r at hfold
    injection hfold with hfold
    exact hfold ▸ hacc
  | cons d ds ih =>
    rw [List.foldlM_cons] at hfold
    cases hd : acc.declare d with
    | error e =>
      rw [hd] at hfold
      cases hfold
    | ok acc' =>
      rw [hd] at hfold
      obtain ⟨p, rfl⟩ := declare_eq_ok hd
      exact ih (.register p.1 p.2 hacc) hfold

theorem reachable_ofDeclarations {decls : List (String × String)}
    (h : ofDeclarations decls = .ok r) : r.Reachable :=
  Reachable.empty.foldlM_declare h

theorem reachable_ofRon {text : String} (h : ofRon text = .ok r) : r.Reachable := by
  unfold ofRon at h
  split at h
  · exact reachable_ofDeclarations h
  · cases h

/-! The order and the productions it lists. -/

theorem keys_filterMap {ns : List String} {m : String → Option (List Node)}
    (hall : ∀ n ∈ ns, (m n).isSome) : (ns.filterMap fun n => (m n).map (n, ·)).map Prod.fst = ns := by
  induction ns with
  | nil => rfl
  | cons x xs ih =>
    obtain ⟨b, hb⟩ := Option.isSome_iff_exists.1 (hall x List.mem_cons_self)
    simp [hb, ih fun n hn => hall n (List.mem_cons_of_mem x hn)]

theorem lookup_filterMap {ns : List String} (hns : ns.Nodup) (m : String → Option (List Node))
    (n : String) :
    (ns.filterMap fun k => (m k).map (k, ·)).lookup n = if n ∈ ns then m n else none := by
  induction ns with
  | nil => rfl
  | cons x xs ih =>
    rw [List.nodup_cons] at hns
    by_cases hnx : n = x
    · -- the head is the name; it is not among the later names
      subst hnx
      cases hm : m n <;> simp [hm, ih hns.2, hns.1]
    · have hbeq : (n == x) = false := beq_false_of_ne hnx
      cases hm : m x <;> simp [hm, ih hns.2, hnx, hbeq, List.lookup_cons]

theorem WellFormed.keys_iter (h : r.WellFormed) : r.iter.map Prod.fst = r.order :=
  keys_filterMap fun n hn => (h.mem_order n).1 hn

theorem WellFormed.lookup_iter (h : r.WellFormed) (n : String) : r.iter.lookup n = r.lookup n := by
  rw [iter, lookup_filterMap h.nodup]
  split
  · rfl
  · next hn =>
    have hc : r.contains n = false := by simpa [h.mem_order] using hn
    rw [lookup, eq_comm]
    simpa [contains] using hc

/-- Registering where the registry is well formed is registering in its association list. -/
theorem WellFormed.iter_register (h : r.WellFormed) (name : String) (body : List Node) :
    (r.register name body).iter = upsert r.iter name body := by
  have hlhs : (r.register name body).iter = (r.register name body).order.filterMap
      fun n => ((r.register name body).lookup n).map (n, ·) := rfl
  rw [hlhs, order_register, upsert, h.keys_iter]
  by_cases hname : name ∈ r.order
  · -- the name is listed: its one entry takes the new body where it stands
    rw [if_pos ((h.mem_order name).1 hname), if_pos hname, iter, List.map_filterMap]
    apply List.filterMap_congr
    intro n hn
    by_cases hne : n = name
    · subst hne
      obtain ⟨b, hb⟩ := Option.isSome_iff_exists.1 ((h.mem_order n).1 hn)
      have hl : r.lookup n = some b := hb
      simp [hl]
    · cases hl : r.lookup n <;> simp [hl, hne]
  · -- the name is new: the listed names keep their bodies, and it goes at the end
    rw [if_neg fun hc => hname ((h.mem_order name).2 hc), if_neg hname, List.filterMap_append,
      iter]
    congr 1
    · apply List.filterMap_congr
      intro n hn
      have hne : n ≠ name := fun he => hname (he ▸ hn)
      simp [hne]
    · simp

/-! The registry refines the association list. -/

/-- `r.Represents L`: the registry behaves as the association list `L`, whose keys are
distinct. Its names are the keys of `L` in order, its size is the length of `L`, it is empty
exactly when `L` is, it looks up and contains a name as `L` does, and it iterates over the
pairs of `L` in order. -/
structure Represents (r : Registry) (L : List (String × List Node)) : Prop where
  keys_nodup : (L.map Prod.fst).Nodup
  names_eq : r.names = L.map Prod.fst
  size_eq : r.size = L.length
  isEmpty_iff : r.isEmpty = true ↔ L = []
  lookup_eq : ∀ n, r.lookup n = L.lookup n
  contains_iff : ∀ n, r.contains n = true ↔ n ∈ L.map Prod.fst
  iter_eq : r.iter = L

/-- A well-formed registry represents the productions it iterates over. -/
theorem WellFormed.represents (h : r.WellFormed) : r.Represents r.iter where
  keys_nodup := h.keys_iter ▸ h.nodup
  names_eq := h.keys_iter.symm
  size_eq := by rw [size, ← h.keys_iter, List.length_map]
  isEmpty_iff := by
    rw [isEmpty, List.isEmpty_iff, ← h.keys_iter, List.map_eq_nil_iff]
  lookup_eq n := (h.lookup_iter n).symm
  contains_iff n := by rw [h.keys_iter, h.mem_order]
  iter_eq := rfl

theorem Represents.wellFormed {L : List (String × List Node)} (h : r.Represents L) :
    r.WellFormed where
  nodup := by
    show r.names.Nodup
    rw [h.names_eq]
    exact h.keys_nodup
  mem_order n := by
    show n ∈ r.names ↔ _
    rw [h.contains_iff, h.names_eq]

theorem Represents.register {L : List (String × List Node)} (h : r.Represents L)
    (name : String) (body : List Node) :
    (r.register name body).Represents (upsert L name body) := by
  have hw := h.wellFormed
  rw [← h.iter_eq, ← hw.iter_register]
  exact (hw.register name body).represents

theorem Represents.foldl_register {L : List (String × List Node)} (h : r.Represents L)
    (es : List (String × List Node)) :
    (es.foldl (fun acc e => acc.register e.1 e.2) r).Represents
      (es.foldl (fun acc e => upsert acc e.1 e.2) L) := by
  induction es generalizing r L with
  | nil => exact h
  | cons e es ih => exact ih (h.register e.1 e.2)

/-- Merging in a registry that represents `L'` registers the pairs of `L'` in their order. -/
theorem Represents.merge {L L' : List (String × List Node)} (h : r.Represents L)
    {other : Registry} (ho : other.Represents L') :
    (r.merge other).Represents (L'.foldl (fun acc e => upsert acc e.1 e.2) L) := by
  rw [merge_eq_foldl_register ho.wellFormed.nodup, ho.iter_eq]
  exact h.foldl_register L'

/-- Every registry that registering and merging build, and every registry read from
declarations or from RON, lists each name once in its order and exactly the names that have a
body; it represents an association list with distinct keys, and registering and merging in
the registry are registering in that list, a present key replaced in place and a new one
appended. -/
theorem registry_refines_assocList {r : Registry}
    (hr : r.Reachable ∨ (∃ decls, ofDeclarations decls = .ok r) ∨
      ∃ text, ofRon text = .ok r) :
    r.order.Nodup ∧ (∀ n, n ∈ r.order ↔ r.contains n = true) ∧
      ∃ L, r.Represents L ∧
        (∀ name body, (r.register name body).Represents (upsert L name body)) ∧
        ∀ other L', other.Represents L' →
          (r.merge other).Represents (L'.foldl (fun acc e => upsert acc e.1 e.2) L) := by
  have hreach : r.Reachable := by
    rcases hr with h | ⟨_, h⟩ | ⟨_, h⟩
    · exact h
    · exact reachable_ofDeclarations h
    · exact reachable_ofRon h
  have hw := hreach.wellFormed
  exact ⟨hw.nodup, hw.mem_order, r.iter, hw.represents, hw.represents.register,
    fun _ _ ho => hw.represents.merge ho⟩

/-- `A` registered, then `B`, then `A` again: `A` keeps its first place. -/
theorem registry_refines_assocList_reregistered :
    let r := ((empty.register "A" [.word "x"]).register "B" []).register "A" [.word "y"]
    r.Reachable ∧ r.order.Nodup ∧ (∀ n, n ∈ r.order ↔ r.contains n = true) ∧
      ∃ L, r.Represents L ∧
        (∀ name body, (r.register name body).Represents (upsert L name body)) ∧
        ∀ other L', other.Represents L' →
          (r.merge other).Represents (L'.foldl (fun acc e => upsert acc e.1 e.2) L) := by
  intro r
  have hr : r.Reachable := .register _ _ (.register _ _ (.register _ _ .empty))
  exact ⟨hr, registry_refines_assocList (Or.inl hr)⟩

/-! The abstraction to the association list commutes with every operation, so what reads a
grammar through `toGrammar` reads what the registry holds. -/

theorem toGrammar_empty : empty.toGrammar = Grammar.empty := rfl

theorem WellFormed.names_toGrammar (h : r.WellFormed) : r.toGrammar.names = r.names :=
  h.keys_iter

theorem WellFormed.lookup_toGrammar (h : r.WellFormed) (n : String) :
    r.toGrammar.lookup n = r.lookup n :=
  h.lookup_iter n

theorem WellFormed.contains_toGrammar (h : r.WellFormed) (n : String) :
    r.toGrammar.contains n = r.contains n := by
  simp only [Grammar.contains, h.lookup_toGrammar, contains, lookup]

theorem WellFormed.toGrammar_register (h : r.WellFormed) (name : String) (body : List Node) :
    (r.register name body).toGrammar = r.toGrammar.register name body := by
  have hnd : (r.iter.map Prod.fst).Nodup := h.keys_iter ▸ h.nodup
  simp only [toGrammar, Grammar.register, h.iter_register, Grammar.insertEntry_eq_upsert hnd]

theorem WellFormed.toGrammar_foldl_register (h : r.WellFormed) (es : List (String × List Node)) :
    (es.foldl (fun acc e => acc.register e.1 e.2) r).toGrammar =
      es.foldl (fun acc e => acc.register e.1 e.2) r.toGrammar := by
  induction es generalizing r with
  | nil => rfl
  | cons e es ih =>
    simp only [List.foldl_cons]
    rw [ih (h.register e.1 e.2), h.toGrammar_register]

theorem WellFormed.toGrammar_merge (h : r.WellFormed) {other : Registry}
    (ho : other.WellFormed) : (r.merge other).toGrammar = r.toGrammar.merge other.toGrammar := by
  rw [merge_eq_foldl_register ho.nodup, h.toGrammar_foldl_register]
  rfl

theorem WellFormed.toGrammar_foldlM_declare (h : r.WellFormed) (decls : List (String × String)) :
    (decls.foldlM declare r).map toGrammar = decls.foldlM Grammar.declare r.toGrammar := by
  induction decls generalizing r with
  | nil => rfl
  | cons d ds ih =>
    rw [List.foldlM_cons, List.foldlM_cons]
    unfold declare Grammar.declare
    cases Grammar.readDeclaration d with
    | error e => rfl
    | ok p =>
      show (ds.foldlM declare (r.register p.1 p.2)).map toGrammar =
        ds.foldlM Grammar.declare (r.toGrammar.register p.1 p.2)
      rw [← h.toGrammar_register]
      exact ih (h.register p.1 p.2)

/-- Reading declarations into a registry and reading them into a grammar agree. -/
theorem ofDeclarations_toGrammar (decls : List (String × String)) :
    (ofDeclarations decls).map toGrammar = Grammar.ofDeclarations decls :=
  wellFormed_empty.toGrammar_foldlM_declare decls

theorem ofRon_toGrammar (text : String) : (ofRon text).map toGrammar = Grammar.ofRon text := by
  unfold ofRon Grammar.ofRon
  split
  · exact ofDeclarations_toGrammar _
  · rfl

end Registry

end StochasticGrammar
