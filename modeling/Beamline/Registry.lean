/-!
Names of devices. A name that is taken is never given to another device before it is removed;
`find?_of_concat` and `find?_remove` say what an entry more and a name less do to the map from names
to entries.
-/

namespace Beamline

structure Entry (δ : Type) where
  name : String
  /-- The driver that built the device, or the kind of a composite. -/
  driver : String
  device : δ
  deriving DecidableEq, Repr

/-- The entries in the order of insertion, no two of a name. -/
structure Registry (δ : Type) where
  entries : List (Entry δ)
  nodup : (entries.map (·.name)).Nodup

namespace Registry

variable {δ : Type}

def empty : Registry δ := ⟨[], List.nodup_nil⟩

def find? (r : Registry δ) (name : String) : Option (Entry δ) :=
  r.entries.find? fun e => e.name == name

def get? (r : Registry δ) (name : String) : Option δ := (r.find? name).map (·.device)

def contains (r : Registry δ) (name : String) : Bool := (r.find? name).isSome

def size (r : Registry δ) : Nat := r.entries.length

def isEmpty (r : Registry δ) : Bool := r.entries.isEmpty

theorem find?_eq_none_iff {r : Registry δ} {name : String} :
    r.find? name = none ↔ name ∉ r.entries.map (·.name) := by
  simp only [find?, List.find?_eq_none, beq_iff_eq, List.mem_map, not_exists, not_and]

/-- Add a device under a name that is free; nothing if it is taken. -/
def insert? (r : Registry δ) (name driver : String) (device : δ) : Option (Registry δ) :=
  match h : r.find? name with
  | some _ => none
  | none => some ⟨r.entries ++ [⟨name, driver, device⟩], by
      have hfree := find?_eq_none_iff.mp h
      simp only [List.map_append, List.map_cons, List.map_nil]
      rw [List.nodup_append]
      refine ⟨r.nodup, by simp, ?_⟩
      intro a ha b hb hab
      simp only [List.mem_singleton] at hb
      exact hfree (hb ▸ hab ▸ ha)⟩

theorem insert?_of_free {r : Registry δ} {name : String} (h : name ∉ r.entries.map (·.name))
    (driver : String) (device : δ) : ∃ r', r.insert? name driver device = some r' ∧
      r'.entries = r.entries ++ [⟨name, driver, device⟩] := by
  unfold insert?
  split
  · rename_i e he
    rw [find?_eq_none_iff.mpr h] at he
    cases he
  · exact ⟨_, rfl, rfl⟩

theorem get?_of_mem {r : Registry δ} {name : String} (h : name ∈ r.entries.map (·.name)) :
    ∃ device, r.get? name = some device := by
  cases hfind : r.find? name with
  | none => exact absurd h (find?_eq_none_iff.mp hfind)
  | some e => exact ⟨e.device, by rw [get?, hfind]; rfl⟩

theorem contains_of_free {r : Registry δ} {name : String} (h : name ∉ r.entries.map (·.name)) :
    r.contains name = false := by
  rw [contains, find?_eq_none_iff.mpr h]
  rfl

def remove (r : Registry δ) (name : String) : Registry δ :=
  ⟨r.entries.filter fun e => e.name != name,
    List.Sublist.nodup (List.Sublist.map _ List.filter_sublist) r.nodup⟩

/-- All entries, in the order of their names. -/
def sorted (r : Registry δ) : List (Entry δ) :=
  r.entries.mergeSort fun a b => decide (a.name ≤ b.name)

theorem find?_of_concat {r r' : Registry δ} {e : Entry δ} (h : r'.entries = r.entries ++ [e])
    (hfree : e.name ∉ r.entries.map (·.name)) (name : String) :
    r'.find? name = if e.name = name then some e else r.find? name := by
  have hnone : r.find? e.name = none := find?_eq_none_iff.mpr hfree
  rw [find?, h, List.find?_append]
  split
  · next hname =>
    subst hname
    rw [show r.entries.find? (fun x => x.name == e.name) = none from hnone]
    simp
  · next hname => simp [find?, hname]

theorem find?_remove (r : Registry δ) (removed name : String) :
    (r.remove removed).find? name = if removed = name then none else r.find? name := by
  simp only [find?, remove, List.find?_filter]
  split
  · next hname =>
    subst hname
    simp
  · next hname =>
    congr 1
    funext e
    by_cases he : e.name = name
    · simp [he, Ne.symm hname]
    · simp [he]

end Registry
end Beamline
