import Beamline.Proofs.Indexing
import Beamline.Proofs.Registering
import Mathlib.Data.Finset.Card

/-!
The registry as a map from names to entries. A `RegistryChange` is what a call does to the entry of
a name when it succeeds; the changes of a run are read off the answers to its requests.
`held changes n` is the entry that the last change of the name `n` has left. Proved here:

* `Applies.find?`, `Changes.find?`: a lookup after one change, and after a run, is by `held`;
* `request_changes`, `run_changes`: each request makes the changes of its answer, and so does a run;
* `Changes.device?`: the device of an entry stays where it is;
* `agreesWith_of_find`: all queries of the registry are determined by lookups (`AgreesWith`);
* `names_follow_changes` puts these together.
-/

namespace Beamline

/-! ## Changes of a name -/

inductive RegistryChange where
  /-- An existing device is inserted under a name. -/
  | inserted (e : Entry DeviceId) (d : Device Float)
  /-- A device is built under a name. -/
  | registered (e : Entry DeviceId) (d : Device Float)
  | removed (name : String)

namespace RegistryChange

variable {x : RegistryChange} {changes : List RegistryChange} {n : String}

def name : RegistryChange → String
  | inserted e _ | registered e _ => e.name
  | removed name => name

/-- The entry, and its device. -/
def given? : RegistryChange → Option (Entry DeviceId × Device Float)
  | inserted e d | registered e d => some (e, d)
  | removed _ => none

def entry? (x : RegistryChange) : Option (Entry DeviceId) := x.given?.map Prod.fst

/-- The entry, if its device was built. -/
def built? : RegistryChange → Option (Entry DeviceId)
  | registered e _ => some e
  | inserted _ _ | removed _ => none

def last? (changes : List RegistryChange) (n : String) : Option RegistryChange :=
  changes.reverse.find? fun x => x.name == n

/-- The entry left by the last change of the name. -/
def held (changes : List RegistryChange) (n : String) : Option (Entry DeviceId) :=
  (last? changes n).bind entry?

theorem last?_cons (x : RegistryChange) (changes : List RegistryChange) (n : String) :
    last? (x :: changes) n = (last? changes n).or (if x.name = n then some x else none) := by
  rw [last?, List.reverse_cons, List.find?_append]
  by_cases hn : x.name = n <;> simp [last?, hn]

theorem mem_of_last? (h : last? changes n = some x) : x ∈ changes :=
  List.mem_reverse.mp (List.mem_of_find?_eq_some h)

theorem name_of_last? (h : last? changes n = some x) : x.name = n := by
  simpa using List.find?_some h

theorem eq_registered_of_built {e : Entry DeviceId} (h : x.built? = some e) :
    ∃ d, x = .registered e d := by
  cases x with
  | registered e d => cases h; exact ⟨d, rfl⟩
  | inserted e d => cases h
  | removed n => cases h

theorem name_of_given {e : Entry DeviceId} {d : Device Float} (h : x.given? = some (e, d)) :
    x.name = e.name := by
  cases x <;> cases h <;> rfl

end RegistryChange

theorem Registry.find?_eq_some_iff {δ : Type} {r : Registry δ} {n : String} {e : Entry δ} :
    r.find? n = some e ↔ e ∈ r.entries ∧ e.name = n := by
  constructor
  · intro h
    exact ⟨List.mem_of_find?_eq_some h, by simpa using List.find?_some h⟩
  · rintro ⟨he, rfl⟩
    cases hfind : r.find? e.name with
    | none => exact absurd (List.mem_map_of_mem he) (find?_eq_none_iff.mp hfind)
    | some e' =>
      have he' := List.mem_of_find?_eq_some hfind
      have hname : e'.name = e.name := by simpa using List.find?_some hfind
      rw [List.inj_on_of_nodup_map r.nodup he' he hname]

theorem Registry.remove_of_free {δ : Type} {r : Registry δ} {n : String}
    (h : n ∉ r.entries.map (·.name)) : r.remove n = r := by
  obtain ⟨entries, nodup⟩ := r
  have hkept : (entries.filter fun e => e.name != n) = entries := by
    refine List.filter_eq_self.mpr fun e he => bne_iff_ne.mpr ?_
    rintro rfl
    exact h (List.mem_map_of_mem he)
  simp only [remove, hkept]

theorem CompositeConfig.name_of_draft {ι : Type} {c : CompositeConfig} {mode : Mode}
    {lookup : String → Except (DeviceError Float) ι} {draft : Draft ι Float}
    (h : c.draft mode lookup = .ok draft) : draft.name = c.name := by
  obtain ⟨name, kind⟩ := c
  cases kind with
  | doubleCrystal c =>
    simp only [CompositeConfig.draft, DoubleCrystalConfig.draft, except_bind_eq_ok] at h
    obtain ⟨inout, -, phi1, -, phi2, -, stage, -, geometry, -, h⟩ := h
    cases h
    rfl
  | bragg c =>
    simp only [CompositeConfig.draft, BraggConfig.draft, except_bind_eq_ok] at h
    obtain ⟨tthm, -, omgm, -, changer, -, geometry, -, h⟩ := h
    split at h
    · cases h
      rfl
    · cases h
      rfl
    · cases h

namespace Instrument

variable {i i' i'' : Instrument} {x : RegistryChange} {xs ys : List RegistryChange}
  {e : Entry DeviceId}
  {d : Device Float} {n : String}

/-! ## Steps -/

/-- Drivers are the same, and devices are appended only. -/
structure Grows (i i' : Instrument) : Prop where
  drivers : i'.drivers = i.drivers
  devices : i.lab.devices <+: i'.lab.devices

theorem Grows.refl (i : Instrument) : Grows i i := ⟨rfl, List.prefix_rfl⟩

theorem Grows.trans (h : Grows i i') (h' : Grows i' i'') : Grows i i'' :=
  ⟨h'.drivers.trans h.drivers, h.devices.trans h'.devices⟩

theorem Grows.device? {id : DeviceId} (h : Grows i i') (hd : i.lab.device? id = some d) :
    i'.lab.device? id = some d := by
  obtain ⟨more, hmore⟩ := h.devices
  unfold Lab.device? at hd ⊢
  rw [← hmore, List.getElem?_append_left (List.getElem?_eq_some_iff.mp hd).1, hd]

/-- An entry with a free name is appended, and its device is `d`. -/
structure Gives (i : Instrument) (e : Entry DeviceId) (d : Device Float) (i' : Instrument) :
    Prop where
  free : e.name ∉ i.registry.entries.map (·.name)
  entries : i'.registry.entries = i.registry.entries ++ [e]
  device : i'.lab.device? e.device = some d

def Simulated (i : Instrument) : Prop := ∀ driver ∈ i.drivers, driver ∈ simulatedDrivers

/-- The change `x` made to the instrument. -/
inductive Applies (i : Instrument) : RegistryChange → Instrument → Prop
  | inserted {e : Entry DeviceId} {d : Device Float} {i' : Instrument} (h : Gives i e d i') :
      Applies i (.inserted e d) i'
  | registered {e : Entry DeviceId} {d : Device Float} {i' : Instrument} (h : Gives i e d i')
      (hname : i.Simulated → d.name = e.name) : Applies i (.registered e d) i'
  | removed {n : String} {i' : Instrument} (h : i'.registry = i.registry.remove n) :
      Applies i (.removed n) i'

/-- The changes made one after another, with any steps in between that leave the registry. -/
inductive Changes : Instrument → List RegistryChange → Instrument → Prop
  | nil {i : Instrument} : Changes i [] i
  | idle {i i' i'' : Instrument} {xs : List RegistryChange} (hgrows : Grows i i')
      (h : i'.registry = i.registry) (hs : Changes i' xs i'') : Changes i xs i''
  | change {i i' i'' : Instrument} {x : RegistryChange} {xs : List RegistryChange}
      (hgrows : Grows i i') (h : Applies i x i') (hs : Changes i' xs i'') : Changes i (x :: xs) i''

theorem Applies.changes (h : Applies i x i') (hgrows : Grows i i') : Changes i [x] i' :=
  .change hgrows h .nil

theorem Changes.of_eq (h : i'.registry = i.registry) (hgrows : Grows i i') : Changes i [] i' :=
  .idle hgrows h .nil

theorem Changes.trans (h : Changes i xs i') (h' : Changes i' ys i'') :
    Changes i (xs ++ ys) i'' := by
  induction h with
  | nil => exact h'
  | idle hgrows h _ ih => exact .idle hgrows h (ih h')
  | change hgrows h _ ih => exact .change hgrows h (ih h')

theorem Changes.grows (h : Changes i xs i') : Grows i i' := by
  induction h with
  | nil => exact .refl _
  | idle hgrows _ _ ih => exact hgrows.trans ih
  | change hgrows _ _ ih => exact hgrows.trans ih

theorem Applies.given (h : Applies i x i') (hx : x.given? = some (e, d)) : Gives i e d i' := by
  cases h with
  | inserted h => cases hx; exact h
  | registered h _ => cases hx; exact h
  | removed h => cases hx

theorem Applies.find? (h : Applies i x i') (n : String) :
    i'.registry.find? n = if x.name = n then x.entry? else i.registry.find? n := by
  cases h with
  | inserted h => exact Registry.find?_of_concat h.entries h.free n
  | registered h _ => exact Registry.find?_of_concat h.entries h.free n
  | removed h =>
    rw [h]
    exact Registry.find?_remove i.registry _ n

/-- By induction on the changes. -/
theorem Changes.find? (h : Changes i xs i') (n : String) :
    i'.registry.find? n =
      (RegistryChange.last? xs n).elim (i.registry.find? n) RegistryChange.entry? := by
  induction h with
  | nil => rfl
  | idle _ h _ ih => rw [ih, Registry.find?, h, ← Registry.find?]
  | @change i i' i'' x xs _ h _ ih =>
    rw [ih, RegistryChange.last?_cons]
    cases RegistryChange.last? xs n with
    | some y => rfl
    | none =>
      rw [Option.elim_none, Option.none_or, h.find? n]
      split <;> rfl

theorem Changes.device? (h : Changes i xs i') (hx : x ∈ xs) (hgiven : x.given? = some (e, d)) :
    i'.lab.device? e.device = some d := by
  induction h with
  | nil => cases hx
  | idle _ _ _ ih => exact ih hx
  | change _ h hs ih =>
    rcases List.mem_cons.mp hx with rfl | hx
    · exact hs.grows.device? (h.given hgiven).device
    · exact ih hx

theorem Changes.knows (h : Changes i xs i') (hi : i.Simulated) (hx : .registered e d ∈ xs) :
    d.name = e.name := by
  induction h with
  | nil => cases hx
  | idle hgrows _ _ ih =>
    rw [Simulated, ← hgrows.drivers] at hi
    exact ih hi hx
  | change hgrows h _ ih =>
    rcases List.mem_cons.mp hx with rfl | hx
    · cases h with
      | registered _ hname => exact hname hi
    · rw [Simulated, ← hgrows.drivers] at hi
      exact ih hi hx

theorem Changes.keeps (h : Changes i xs i') (hstays : .removed n ∉ xs)
    (hn : i.registry.find? n = some e) : i'.registry.find? n = some e := by
  induction h with
  | nil => exact hn
  | idle _ h _ ih =>
    refine ih hstays ?_
    rw [h]
    exact hn
  | @change i i' i'' x xs _ h _ ih =>
    obtain ⟨hx, hxs⟩ := not_or.mp (mt List.mem_cons.mpr hstays)
    refine ih hxs ?_
    -- names are given only where they are free, so all that this change could do is to remove it
    have hother : x.name ≠ n := by
      rintro rfl
      cases hgiven : x.given? with
      | none =>
        cases x with
        | removed n => exact hx rfl
        | inserted e d => cases hgiven
        | registered e d => cases hgiven
      | some given =>
        have hfree := (h.given hgiven).free
        rw [← RegistryChange.name_of_given hgiven, ← Registry.find?_eq_none_iff, hn] at hfree
        cases hfree
    rw [h.find?, if_neg hother, hn]

/-! ## Requests -/

/-- The calls that may change the registry. -/
inductive Request where
  | insert (name driver : String) (id : DeviceId)
  | insertDevice (name driver : String) (d : Device Float)
  | register (c : DeviceConfig)
  | unregister (name : String)
  | buildSetup (s : Setup)

def serve (i : Instrument) : Request → Instrument
  | .insert name driver id =>
    if (i.lab.device? id).isSome then (insert name driver id i).2 else i
  | .insertDevice name driver d => (insertDevice name driver d i).2
  | .register c => (register c i).2
  | .unregister name => (unregister name i).2
  | .buildSetup s => (buildSetup s i).2

def after (i : Instrument) (past : List Request) : Instrument := past.foldl serve i

/-- The changes of registering the items in turn, up to the first that fails. -/
def itemChanges (mode : Mode) (i : Instrument) : List Item → List RegistryChange
  | [] => []
  | x :: xs =>
    match x.made mode i, x.register mode i with
    | .ok d, (.ok (), i') =>
      .registered ⟨x.name, x.label, i.lab.devices.length⟩ d :: itemChanges mode i' xs
    | _, _ => []

/-- The changes of a request, by its answer. A build that fails has made those of the items before
the failure. -/
def changesOf (i : Instrument) : Request → List RegistryChange
  | .insert name driver id =>
    match i.lab.device? id, (insert name driver id i).1 with
    | some d, .ok () => [.inserted ⟨name, driver, id⟩ d]
    | _, _ => []
  | .insertDevice name driver d =>
    match (insertDevice name driver d i).1 with
    | .ok () => [.inserted ⟨name, driver, i.lab.devices.length⟩ d]
    | .error _ => []
  | .register c => i.itemChanges .master [.device c]
  | .unregister name => if (unregister name i).1 then [.removed name] else []
  | .buildSetup s => i.itemChanges s.mode s.items

def changes (i : Instrument) : List Request → List RegistryChange
  | [] => []
  | q :: past => i.changesOf q ++ (i.serve q).changes past

theorem Adds.gives {mode : Mode} {x : Item} (h : Adds mode i x i') (hd : x.made mode i = .ok d) :
    Gives i ⟨x.name, x.label, i.lab.devices.length⟩ d i' := by
  obtain ⟨d', hd', hdevices⟩ := h.devices
  obtain rfl := Except.ok.inj (hd.symm.trans hd')
  refine ⟨h.free, h.entries, ?_⟩
  rw [Lab.device?, hdevices]
  exact List.getElem?_concat_length

theorem name_of_made {mode : Mode} {x : Item} (hi : i.Simulated) (h : x.made mode i = .ok d) :
    d.name = x.name := by
  cases x with
  | device c =>
    simp only [Item.made, build] at h
    split at h
    · cases h
    · split at h
      · cases h
      · next driver hdriver =>
        split at h
        · cases h
        · next hvalid =>
          obtain ⟨d', hd', hname⟩ := build_of_validate
            (hi driver (List.mem_of_find?_eq_some hdriver)) hvalid c.name
          rw [hd'] at h
          cases h
          exact hname
  | composite c =>
    simp only [Item.made] at h
    split at h
    · cases h
    · next built hbuilt =>
      split at h
      · cases h
      · cases h
        obtain ⟨draft, hdraft, hbuilt⟩ := except_bind_eq_ok.mp hbuilt
        change built.name = c.name
        rw [(Draft.build_keeps hbuilt).1]
        exact CompositeConfig.name_of_draft hdraft

/-! ## Runs -/

theorem forEach_singleton {β : Type} (f : β → Action Instrument RegisterError Unit) (b : β)
    (i : Instrument) : forEach f [b] i = f b i := by
  rw [forEach, Action.bind_apply]
  rcases f b i with ⟨e | _, i'⟩ <;> rfl

theorem items_changes (mode : Mode) (i : Instrument) (xs : List Item) :
    Changes i (i.itemChanges mode xs) (forEach (Item.register mode) xs i).2 := by
  induction xs generalizing i with
  | nil => exact .nil
  | cons x xs ih =>
    have hregisters := item_registers mode i x
    rcases hrun : x.register mode i with ⟨e | _, i'⟩
    · rw [hrun] at hregisters
      have hgrows : Grows i i' := ⟨hregisters.drivers, hregisters.devices⟩
      rw [itemChanges, hrun, show x.made mode i = .error e from hregisters.cause, forEach,
        Action.bind_error _ hrun]
      exact .of_eq hregisters.registry hgrows
    · rw [hrun] at hregisters
      obtain ⟨d, hd, hdevices⟩ := hregisters.devices
      have hgrows : Grows i i' := ⟨hregisters.drivers, hdevices ▸ List.prefix_append _ _⟩
      rw [itemChanges, hrun, hd, forEach, Action.bind_ok _ hrun]
      exact .change hgrows (.registered (hregisters.gives hd) fun hi => name_of_made hi hd) (ih i')

theorem insert_changes (i : Instrument) (name driver : String) (id : DeviceId) :
    Changes i (i.changesOf (.insert name driver id)) (i.serve (.insert name driver id)) := by
  rw [changesOf, serve]
  cases hd : i.lab.device? id with
  | none => exact .nil
  | some d =>
    by_cases hname : name ∈ i.registry.entries.map (·.name)
    · rw [insert_taken hname]
      exact .nil
    · obtain ⟨registry, hentries, hinsert⟩ := insert_free hname driver id
      rw [hinsert]
      exact Applies.changes (.inserted ⟨hname, hentries, hd⟩) ⟨rfl, List.prefix_rfl⟩

theorem insertDevice_changes (i : Instrument) (name driver : String) (d : Device Float) :
    Changes i (i.changesOf (.insertDevice name driver d))
      (i.serve (.insertDevice name driver d)) := by
  rw [changesOf, serve, insertDevice]
  by_cases hname : name ∈ i.registry.entries.map (·.name)
  · have hinsert := insert_taken (i := { i with lab := (i.lab.add d).2 }) hname driver
      (i.lab.add d).1
    simp only [hinsert]
    exact .nil
  · obtain ⟨registry, hentries, hinsert⟩ := insert_free
      (i := { i with lab := (i.lab.add d).2 }) hname driver (i.lab.add d).1
    simp only [hinsert]
    refine Applies.changes (.inserted ⟨hname, hentries, ?_⟩) ⟨rfl, List.prefix_append _ _⟩
    exact List.getElem?_concat_length

theorem unregister_changes (i : Instrument) (name : String) :
    Changes i (i.changesOf (.unregister name)) (i.serve (.unregister name)) := by
  rw [changesOf, serve, unregister]
  cases hname : i.registry.contains name with
  | true => exact Applies.changes (.removed rfl) ⟨rfl, List.prefix_rfl⟩
  | false =>
    have hfree := Registry.contains_eq_false_iff.mp hname
    exact .of_eq (Registry.remove_of_free hfree) ⟨rfl, List.prefix_rfl⟩

theorem request_changes (i : Instrument) (q : Request) : Changes i (i.changesOf q) (i.serve q) := by
  cases q with
  | insert name driver id => exact insert_changes i name driver id
  | insertDevice name driver d => exact insertDevice_changes i name driver d
  | register c =>
    have hchanges := items_changes .master i [.device c]
    rwa [forEach_singleton] at hchanges
  | unregister name => exact unregister_changes i name
  | buildSetup s =>
    rw [serve, buildSetup_eq]
    exact items_changes s.mode i s.items

theorem run_changes (i : Instrument) (past : List Request) :
    Changes i (i.changes past) (i.after past) := by
  induction past generalizing i with
  | nil => exact .nil
  | cons q past ih => exact (request_changes i q).trans (ih (i.serve q))

/-! ## Queries -/

theorem sorted_ascending {δ : Type} (r : Registry δ) :
    (r.sorted.map (·.name)).Pairwise (· < ·) := by
  have hordered : r.sorted.Pairwise fun a b => decide (a.name ≤ b.name) = true := by
    refine List.pairwise_mergeSort (fun a b c hab hbc => ?_) (fun a b => ?_) r.entries
    · exact decide_eq_true (String.le_trans (of_decide_eq_true hab) (of_decide_eq_true hbc))
    · simpa using String.le_total a.name b.name
  have hnodup : (r.sorted.map (·.name)).Nodup :=
    ((List.mergeSort_perm r.entries _).map _).nodup_iff.mpr r.nodup
  rw [List.pairwise_map]
  refine (hordered.and (List.pairwise_map.mp hnodup)).imp ?_
  rintro a b ⟨hle, hne⟩
  by_contra hlt
  exact hne (String.le_antisymm (of_decide_eq_true hle) (String.not_lt.mp hlt))

/-- Every query of the registry has the answer that the map `held` gives. -/
structure AgreesWith (i : Instrument) (held : String → Option (Entry DeviceId)) : Prop where
  get : ∀ n, i.registry.get? n = (held n).map (·.device)
  contains : ∀ n, i.registry.contains n = (held n).isSome
  resolve : ∀ n, i.resolve n =
    (held n).elim (.error (.configuration (.unresolved n))) fun e => .ok e.device
  size : ∃ names : Finset String,
    (∀ n, n ∈ names ↔ (held n).isSome = true) ∧ i.registry.size = names.card
  isEmpty : i.registry.isEmpty = true ↔ ∀ n, held n = none
  ascending : (i.listing.map Prod.fst).Pairwise (· < ·)
  listing : ∀ row, row ∈ i.listing ↔ ∃ e d, held row.1 = some e ∧
    i.lab.device? e.device = some d ∧ row = (e.name, e.driver, d.category, d.unit)

theorem mem_listing (hdevices : ∀ e ∈ i.registry.entries, ∃ d, i.lab.device? e.device = some d)
    (row : String × String × Category × String) :
    row ∈ i.listing ↔ ∃ e d, e ∈ i.registry.entries ∧ i.lab.device? e.device = some d ∧
      row = (e.name, e.driver, d.category, d.unit) := by
  simp only [listing, Registry.sorted, List.mem_map, List.mem_mergeSort]
  constructor
  · rintro ⟨e, he, rfl⟩
    obtain ⟨d, hd⟩ := hdevices e he
    exact ⟨e, d, he, hd, by rw [hd]⟩
  · rintro ⟨e, d, he, hd, rfl⟩
    exact ⟨e, he, by rw [hd]⟩

theorem agreesWith_of_find {held : String → Option (Entry DeviceId)}
    (hfind : ∀ n, i.registry.find? n = held n)
    (hdevices : ∀ e ∈ i.registry.entries, ∃ d, i.lab.device? e.device = some d) :
    i.AgreesWith held := by
  have hnames : ∀ n, n ∈ i.registry.entries.map (·.name) ↔ (held n).isSome = true := by
    intro n
    rw [← hfind, ← not_iff_not, ← Registry.find?_eq_none_iff, Bool.not_eq_true,
      Option.isSome_eq_false_iff, Option.isNone_iff_eq_none]
  constructor
  case get => intro n; rw [Registry.get?, hfind]
  case contains => intro n; rw [Registry.contains, hfind]
  case resolve =>
    intro n
    rw [Instrument.resolve, Registry.get?, hfind]
    cases held n <;> rfl
  case size =>
    refine ⟨(i.registry.entries.map (·.name)).toFinset, fun n => ?_, ?_⟩
    · rw [List.mem_toFinset, hnames]
    · rw [List.toFinset_card_of_nodup i.registry.nodup, List.length_map, Registry.size]
  case isEmpty =>
    rw [Registry.isEmpty, List.isEmpty_iff, ← List.map_eq_nil_iff, List.eq_nil_iff_forall_not_mem]
    refine forall_congr' fun n => ?_
    rw [hnames]
    simp
  case ascending =>
    have hrows : i.listing.map Prod.fst = i.registry.sorted.map (·.name) := by
      rw [listing, List.map_map]
      refine List.map_congr_left fun e _ => ?_
      cases hd : i.lab.device? e.device <;> simp [hd]
    rw [hrows]
    exact sorted_ascending i.registry
  case listing =>
    intro row
    rw [mem_listing hdevices]
    constructor
    · rintro ⟨e, d, he, hd, rfl⟩
      exact ⟨e, d, by rw [← hfind, Registry.find?_eq_some_iff]; exact ⟨he, rfl⟩, hd, rfl⟩
    · rintro ⟨e, d, he, hd, hrow⟩
      rw [← hfind, Registry.find?_eq_some_iff] at he
      exact ⟨e, d, he.1, hd, hrow⟩

/-! ## The main result -/

theorem removed_mem_itemChanges {mode : Mode} {items : List Item} :
    .removed n ∉ i.itemChanges mode items := by
  induction items generalizing i with
  | nil => exact List.not_mem_nil
  | cons x items ih =>
    rw [itemChanges]
    split
    · rintro (_ | ⟨_, hmem⟩)
      exact ih hmem
    · exact List.not_mem_nil

theorem removed_mem_changesOf {q : Request} (h : .removed n ∈ i.changesOf q) :
    q = .unregister n := by
  cases q with
  | insert name driver id =>
    rw [changesOf] at h
    split at h <;> simp at h
  | insertDevice name driver d =>
    rw [changesOf] at h
    split at h <;> simp at h
  | register c => exact absurd h removed_mem_itemChanges
  | unregister name =>
    rw [changesOf] at h
    split at h <;> simp at h
    rw [h]
  | buildSetup s => exact absurd h removed_mem_itemChanges

/-- **Names.** For any drivers, any laboratory and any list of requests, starting from an empty
registry: afterwards every query of the registry has the answer given by the last change of each
name (`AgreesWith`). The device of each entry that was made is the one that was inserted or built.
No request but its own `unregister` changes the entry of a name. If all drivers are simulated, an
entry whose last change was to be built has a device of that name. -/
theorem names_follow_changes (drivers : List Driver) (lab : Lab Float) (past : List Request) :
    let start : Instrument := ⟨drivers, .empty, lab⟩
    let i := start.after past
    let changes := start.changes past
    i.AgreesWith (RegistryChange.held changes) ∧
    (∀ x ∈ changes, ∀ e d, x.given? = some (e, d) → i.lab.device? e.device = some d) ∧
    (∀ n e q, i.registry.find? n = some e → q ≠ .unregister n →
      (i.serve q).registry.find? n = some e) ∧
    (start.Simulated → ∀ n e, (RegistryChange.last? changes n).bind RegistryChange.built? = some e →
      i.registry.get? n = some e.device ∧ (i.lab.device? e.device).map Device.name = some n) := by
  intro start i changes
  have hchanges : Changes start changes i := run_changes start past
  have hfind : ∀ n, i.registry.find? n = RegistryChange.held changes n := by
    intro n
    rw [hchanges.find? n, RegistryChange.held]
    cases RegistryChange.last? changes n <;> rfl
  refine ⟨agreesWith_of_find hfind fun e he => ?_, fun x hx e d => hchanges.device? hx,
    fun n e q hn hq => ?_, fun hsimulated n e hbuilt => ?_⟩
  · have hheld := Registry.find?_eq_some_iff.mpr ⟨he, rfl⟩
    rw [hfind, RegistryChange.held, Option.bind_eq_some_iff] at hheld
    obtain ⟨x, hlast, hentry⟩ := hheld
    obtain ⟨⟨e', d⟩, hgiven, rfl⟩ := Option.map_eq_some_iff.mp hentry
    exact ⟨d, hchanges.device? (RegistryChange.mem_of_last? hlast) hgiven⟩
  · exact (request_changes i q).keeps (fun hmem => hq (removed_mem_changesOf hmem)) hn
  · obtain ⟨x, hlast, hx⟩ := Option.bind_eq_some_iff.mp hbuilt
    obtain ⟨d, rfl⟩ := RegistryChange.eq_registered_of_built hx
    have hmem := RegistryChange.mem_of_last? hlast
    have hname : e.name = n := RegistryChange.name_of_last? hlast
    refine ⟨?_, ?_⟩
    · rw [Registry.get?, hfind, RegistryChange.held, hlast]
      rfl
    · rw [hchanges.device? hmem rfl, Option.map_some, hchanges.knows hsimulated hmem, hname]

/-- A device is inserted under a name of the trial setup, which then is built up to that name. -/
def turmoil : List Request := [
  .insertDevice "mr2" "manual" (.motor (Motor.make "spare")), .buildSetup trialSetup,
  .unregister "mr1", .insert "axis" "manual" 0, .insert "axis" "manual" 1, .unregister "mr1"]

/-- The gate of the setup has been built. The inserted motor has two names, and `mr1` was removed.
-/
theorem names_follow_changes_turmoil :
    let i := (⟨simulatedDrivers, .empty, .empty⟩ : Instrument).after turmoil
    (i.registry.entries.map fun e => (e.name, e.driver, e.device)) =
      [("mr2", "manual", 0), ("mono_inout", "mock_switch", 1), ("axis", "manual", 0)] ∧
    (i.listing.map Prod.fst).Pairwise (· < ·) ∧
    i.resolve "mr1" = .error (.configuration (.unresolved "mr1")) ∧
    i.registry.get? "mono_inout" = some 1 ∧
    (i.lab.device? 1).map Device.name = some "mono_inout" := by
  intro i
  obtain ⟨hagrees, -, -, hknows⟩ := names_follow_changes simulatedDrivers .empty turmoil
  have hbuilt : (RegistryChange.last? (changes ⟨simulatedDrivers, .empty, .empty⟩ turmoil)
      "mono_inout").bind RegistryChange.built? = some ⟨"mono_inout", "mock_switch", 1⟩ := by
    decide +kernel
  obtain ⟨hget, hname⟩ := hknows (fun _ h => h) "mono_inout" _ hbuilt
  have hgone : i.registry.get? "mr1" = none := by decide +kernel
  refine ⟨by decide +kernel, hagrees.ascending, ?_, hget, hname⟩
  rw [resolve, hgone]

end Instrument
end Beamline
