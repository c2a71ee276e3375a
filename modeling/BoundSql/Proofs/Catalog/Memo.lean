import BoundSql.Catalog
import Mathlib.Data.List.Induction

/-!
# A catalog as a memo of its fetcher

A fetcher may yield other entries at each of its calls, or fail after any of them. Beside a catalog
stands the record of what happened: what each call of the fetcher came to, what was announced, and
when the names were forgotten. The names that the catalog knows are those of the entries that the
record still knows, so every answer is an answer about the last fetch that succeeded, and the
fetcher is called for no other reason than that there is none.
-/

namespace BoundSql

open Attempt

namespace Catalog

/-- Erasing repetitions leaves none. -/
theorem nodup_eraseDups (names : List String) : names.eraseDups.Nodup := by
  cases names with
  | nil => exact List.nodup_nil
  | cons name rest =>
    rw [List.eraseDups_cons, List.nodup_cons]
    refine ⟨fun hmem => ?_, nodup_eraseDups _⟩
    rw [List.mem_eraseDups, List.mem_filter] at hmem
    simp at hmem
termination_by names.length
decreasing_by exact Nat.lt_succ_of_le (List.length_filter_le _ _)

/-- A catalog that is not loaded knows no names. -/
theorem names_eq_none {c : Catalog} (h : c.isLoaded = false) : c.names = none :=
  Option.isSome_eq_false_iff.mp h |> Option.isNone_iff_eq_none.mp

/-- The names of the tables are given once each. -/
theorem nodup_namesOf (entries : List Value) : (namesOf entries).Nodup := nodup_eraseDups _

/-- An entry names a table if it is a text that is the name between blanks. -/
theorem nameOf?_eq_some {entry : Value} {name : String} :
    nameOf? entry = some name ↔ name ≠ "" ∧ ∃ s, entry = .text s ∧ Text.Trimmed s name := by
  cases entry with
  | text s =>
    by_cases hblank : Text.trim s = ""
    · simp only [nameOf?, if_pos hblank, Value.text.injEq, ← Text.trim_eq_iff]
      constructor
      · intro h
        cases h
      · rintro ⟨hname, _, rfl, htrim⟩
        exact absurd (htrim.symm.trans hblank) hname
    · simp only [nameOf?, if_neg hblank, Option.some.injEq, Value.text.injEq, ← Text.trim_eq_iff]
      constructor
      · rintro rfl
        exact ⟨hblank, s, rfl, rfl⟩
      · rintro ⟨_, _, rfl, htrim⟩
        exact htrim
  | _ => simp [nameOf?]

/-- The names of the tables are the texts among the entries without the blanks around them, as far
as anything is left of them. -/
theorem mem_namesOf {entries : List Value} {name : String} :
    name ∈ namesOf entries ↔ name ≠ "" ∧ ∃ s, .text s ∈ entries ∧ Text.Trimmed s name := by
  rw [namesOf, List.mem_eraseDups, List.mem_filterMap]
  constructor
  · rintro ⟨entry, hentry, hname⟩
    obtain ⟨hne, s, rfl, htrim⟩ := nameOf?_eq_some.mp hname
    exact ⟨hne, s, hentry, htrim⟩
  · rintro ⟨hne, s, hs, htrim⟩
    exact ⟨.text s, hs, nameOf?_eq_some.mpr ⟨hne, s, rfl, htrim⟩⟩

section Lookups

variable {σ : Type} {catalog : Part σ Catalog} {fetch : Attempt σ (List Value)}
  {announce : Nat → Attempt σ Unit} {s : σ}

/-- Names that are known are answered, and nothing else happens. -/
theorem run_tables_known {names : List String} (h : (catalog.get s).names = some names) :
    (tables catalog fetch announce).run s = (.ok names, s) := by
  rw [tables, run_bind, run_state]
  simp only [h, run_pure]

/-- Names that are not known are fetched, kept and announced. -/
theorem run_tables_fetched {t : σ} {entries : List Value} (h : (catalog.get s).names = none)
    (hfetch : fetch.run s = (.ok entries, t)) :
    (tables catalog fetch announce).run s =
      (do announce (namesOf entries).length
          pure (namesOf entries)).run (catalog.put ⟨some (namesOf entries)⟩ t) := by
  rw [tables, run_bind, run_state]
  simp only [h]
  rw [run_bind, hfetch]
  rfl

/-- A fetch that fails leaves what it left, and nothing is kept or announced. -/
theorem run_tables_failed {t : σ} {failure : Failure} (h : (catalog.get s).names = none)
    (hfetch : fetch.run s = (.error failure, t)) :
    (tables catalog fetch announce).run s = (.error failure, t) := by
  rw [tables, run_bind, run_state]
  simp only [h]
  rw [run_bind, hfetch]

/-- An empty name is not looked for. -/
theorem run_hasTable_empty {name : Value} (h : name.truthy = false) :
    (hasTable catalog fetch announce name).run s = (.ok false, s) := by
  rw [hasTable, h]
  rfl

/-- Any other name is looked for among the names. -/
theorem run_hasTable {name : Value} (h : name.truthy = true) :
    (hasTable catalog fetch announce name).run s =
      (tables catalog fetch announce >>= fun names =>
        match name with
        | .text s => pure (names.contains s)
        | v => if v.isKey then pure false else .fail .mistyped).run s := by
  rw [hasTable, h]
  rfl

end Lookups

/-! ### A catalog with its record -/

/-- What happens at a catalog. -/
inductive Event where
  /-- The fetcher was called; what it came to. -/
  | fetched (outcome : Except Failure (List Value))
  /-- The number of names was announced. -/
  | announced (count : Nat)
  /-- The names were forgotten. -/
  | forgot
  deriving Repr

/-- A catalog with the record of what happened at it, oldest first. -/
structure Watched where
  catalog : Catalog
  history : List Event

/-- The catalog as a part of the catalog with its record. -/
def Watched.part : Part Watched Catalog := ⟨Watched.catalog, fun catalog w => { w with catalog }⟩

/-- Put an event on record. -/
def Watched.note (event : Event) (w : Watched) : Watched :=
  { w with history := w.history ++ [event] }

@[simp] theorem Watched.catalog_note (event : Event) (w : Watched) :
    (w.note event).catalog = w.catalog := rfl

@[simp] theorem Watched.history_note (event : Event) (w : Watched) :
    (w.note event).history = w.history ++ [event] := rfl

@[simp] theorem Watched.catalog_put (catalog : Catalog) (w : Watched) :
    (Watched.part.put catalog w).catalog = catalog := rfl

@[simp] theorem Watched.history_put (catalog : Catalog) (w : Watched) :
    (Watched.part.put catalog w).history = w.history := rfl

/-- What each call of a fetcher yields, one item after the other; a failure ends the call. -/
abbrev Fetcher := Nat → List (Except Failure Value)

/-- What a call of a fetcher comes to: all of its entries, or the first failure. -/
def gather (items : List (Except Failure Value)) : Except Failure (List Value) := items.mapM id

/-- Whether an event is a call of the fetcher. -/
def Event.isFetched : Event → Bool
  | fetched _ => true
  | announced _ | forgot => false

/-- How often the fetcher was called. -/
def fetches (history : List Event) : Nat := history.countP Event.isFetched

@[simp] theorem fetches_snoc (history : List Event) (event : Event) :
    fetches (history ++ [event]) = fetches history + if event.isFetched then 1 else 0 := by
  rw [fetches, List.countP_append, List.countP_singleton]
  rfl

/-- What the record knows after one event more. -/
def Event.remember (entries : Option (List Value)) : Event → Option (List Value)
  | fetched (.ok entries) => some entries
  | fetched (.error _) | announced _ => entries
  | forgot => none

/-- The entries of the last fetch that succeeded since the names were forgotten last. -/
def known (history : List Event) : Option (List Value) := history.foldl Event.remember none

@[simp] theorem known_snoc (history : List Event) (event : Event) :
    known (history ++ [event]) = event.remember (known history) := by
  rw [known, List.foldl_append]
  rfl

/-- Entries are known until the names are forgotten. -/
theorem isSome_foldl_remember {entries : Option (List Value)} {events : List Event}
    (hknown : entries.isSome) (h : .forgot ∉ events) :
    (events.foldl Event.remember entries).isSome := by
  induction events generalizing entries with
  | nil => exact hknown
  | cons event rest ih =>
    rw [List.mem_cons, not_or] at h
    refine ih ?_ h.2
    match event with
    | .fetched (.ok _) => rfl
    | .fetched (.error _) | .announced _ => exact hknown
    | .forgot => exact absurd rfl h.1

/-- Call the fetcher and put on record what it comes to. -/
def fetch (fetcher : Fetcher) : Attempt Watched (List Value) := do
  let outcome := gather (fetcher (fetches (← .state).history))
  .update (Watched.note (.fetched outcome))
  .ofExcept outcome

/-- A call of the fetcher comes to what it yields, and is put on record. -/
theorem run_fetch (fetcher : Fetcher) (w : Watched) :
    (fetch fetcher).run w =
      (gather (fetcher (fetches w.history)),
        w.note (.fetched (gather (fetcher (fetches w.history))))) := by
  rw [fetch, run_bind, run_state]
  simp only [run_bind, run_update, run_ofExcept]

/-- Put an announcement on record. -/
def announce (count : Nat) : Attempt Watched Unit := .update (Watched.note (.announced count))

/-- A call on a catalog. -/
inductive Call where
  | hasTable (name : Value)
  | tables
  | preload
  | invalidate
  deriving Repr

/-- The answer of a call on a catalog. -/
inductive Reply where
  | found (answer : Bool)
  | names (names : List String)
  | nothing
  deriving DecidableEq, Repr

namespace Call

/-- Make a call. -/
def perform (fetcher : Fetcher) : Call → Attempt Watched Reply
  | hasTable name => do
    return .found (← Catalog.hasTable Watched.part (fetch fetcher) announce name)
  | tables => do return .names (← Catalog.tables Watched.part (fetch fetcher) announce)
  | preload => do
    Catalog.preload Watched.part (fetch fetcher) announce
    return .nothing
  | invalidate => do
    Catalog.invalidate Watched.part
    .update (Watched.note .forgot)
    return .nothing

/-- Whether a call needs the names: any but the search for an empty name. -/
def looksUp : Call → Bool
  | hasTable name => name.truthy
  | tables | preload => true
  | invalidate => false

/-- What a call that needs the names makes of them. -/
def conclude (names : List String) : Call → Except Failure Reply
  | hasTable (.text s) => .ok (.found (names.contains s))
  | hasTable v => if v.isKey then .ok (.found false) else .error .mistyped
  | tables => .ok (.names names)
  | preload | invalidate => .ok .nothing

section Anywhere

variable {σ : Type} (catalog : Part σ Catalog) (fetch : Attempt σ (List Value))
  (announce : Nat → Attempt σ Unit)

/-- Make a call on a catalog that is a part of anything. -/
def on : Call → Attempt σ Reply
  | hasTable name => do return .found (← Catalog.hasTable catalog fetch announce name)
  | tables => do return .names (← Catalog.tables catalog fetch announce)
  | preload => do
    Catalog.preload catalog fetch announce
    return .nothing
  | invalidate => do
    Catalog.invalidate catalog
    return .nothing

variable {catalog fetch announce}

/-- A call that needs the names gets them first. -/
theorem run_on {call : Call} (h : call.looksUp = true) (s : σ) :
    (call.on catalog fetch announce).run s =
      (Catalog.tables catalog fetch announce >>= fun names => ofExcept (call.conclude names)).run
        s := by
  cases call with
  | hasTable name =>
    rw [on, run_bind, run_hasTable h, run_bind, run_bind]
    rcases (Catalog.tables catalog fetch announce).run s with ⟨outcome, t⟩
    cases outcome with
    | error failure => rfl
    | ok names => cases name <;> rfl
  | tables => rfl
  | preload =>
    rw [on, Catalog.preload, bind_assoc]
    rfl
  | invalidate => cases h

end Anywhere

/-- At a catalog with its record as well. -/
theorem run_perform {fetcher : Fetcher} {call : Call} (h : call.looksUp = true) (w : Watched) :
    (call.perform fetcher).run w =
      (Catalog.tables Watched.part (fetch fetcher) announce >>= fun names =>
        ofExcept (call.conclude names)).run w := by
  cases call with
  | invalidate => cases h
  | hasTable | tables | preload => exact run_on h w

section

variable {fetcher : Fetcher} {w : Watched} {call : Call}

/-- An empty name is not looked for. -/
theorem run_perform_empty {name : Value} (h : name.truthy = false) :
    ((hasTable name).perform fetcher).run w = (.ok (.found false), w) := by
  rw [perform, run_bind, run_hasTable_empty h]
  rfl

/-- A lookup of names that are known changes nothing. -/
theorem run_perform_recalled {names : List String} (hcall : call.looksUp = true)
    (hnames : w.catalog.names = some names) :
    (call.perform fetcher).run w = (call.conclude names, w) := by
  rw [run_perform hcall, run_bind, run_tables_known hnames]
  exact run_ofExcept ..

/-- A lookup of names that are not known fetches, keeps and announces them. -/
theorem run_perform_filled {entries : List Value} (hcall : call.looksUp = true)
    (hnames : w.catalog.names = none)
    (hgather : gather (fetcher (fetches w.history)) = .ok entries) :
    (call.perform fetcher).run w = (call.conclude (namesOf entries),
      (Watched.part.put ⟨some (namesOf entries)⟩ (w.note (.fetched (.ok entries)))).note
        (.announced (namesOf entries).length)) := by
  rw [run_perform hcall, run_bind,
    run_tables_fetched hnames (hgather ▸ run_fetch fetcher w)]
  exact run_ofExcept ..

/-- A lookup fails with the failure of the fetcher. -/
theorem run_perform_failed {failure : Failure} (hcall : call.looksUp = true)
    (hnames : w.catalog.names = none)
    (hgather : gather (fetcher (fetches w.history)) = .error failure) :
    (call.perform fetcher).run w = (.error failure, w.note (.fetched (.error failure))) := by
  rw [run_perform hcall, run_bind, run_tables_failed hnames (hgather ▸ run_fetch fetcher w)]

end

/-- What a call comes to and leaves. -/
inductive Course (fetcher : Fetcher) (w : Watched) (call : Call) :
    Except Failure Reply × Watched → Prop
  /-- An empty name is not looked for. -/
  | idle {name : Value} (hcall : call = .hasTable name) (hname : name.truthy = false) :
    Course fetcher w call (.ok (.found false), w)
  /-- The names are forgotten. -/
  | forgotten (hcall : call = .invalidate) :
    Course fetcher w call (.ok .nothing, (Watched.part.put .empty w).note .forgot)
  /-- The names are known. -/
  | recalled {names : List String} (hcall : call.looksUp = true)
    (hnames : w.catalog.names = some names) : Course fetcher w call (call.conclude names, w)
  /-- The names are fetched, kept and announced. -/
  | filled {entries : List Value} (hcall : call.looksUp = true) (hnames : w.catalog.names = none)
    (hgather : gather (fetcher (fetches w.history)) = .ok entries) :
    Course fetcher w call (call.conclude (namesOf entries),
      (Watched.part.put ⟨some (namesOf entries)⟩ (w.note (.fetched (.ok entries)))).note
        (.announced (namesOf entries).length))
  /-- The fetcher fails. -/
  | failed {failure : Failure} (hcall : call.looksUp = true) (hnames : w.catalog.names = none)
    (hgather : gather (fetcher (fetches w.history)) = .error failure) :
    Course fetcher w call (.error failure, w.note (.fetched (.error failure)))

/-- Every call takes one of these courses. -/
theorem course (fetcher : Fetcher) (call : Call) (w : Watched) :
    Course fetcher w call ((call.perform fetcher).run w) := by
  cases hcall : call.looksUp with
  | false =>
    cases call with
    | hasTable name =>
      rw [run_perform_empty hcall]
      exact .idle rfl hcall
    | invalidate => exact .forgotten rfl
    | tables | preload => cases hcall
  | true =>
    cases hnames : w.catalog.names with
    | some names =>
      rw [run_perform_recalled hcall hnames]
      exact .recalled hcall hnames
    | none =>
      cases hgather : gather (fetcher (fetches w.history)) with
      | ok entries =>
        rw [run_perform_filled hcall hnames hgather]
        exact .filled hcall hnames hgather
      | error failure =>
        rw [run_perform_failed hcall hnames hgather]
        exact .failed hcall hnames hgather

end Call

/-! ### Sequences of calls -/

/-- A catalog that knows nothing, with nothing on record. -/
def Watched.fresh : Watched := ⟨.empty, []⟩

/-- The catalog and its record after some calls, whatever came of each. -/
def after (fetcher : Fetcher) (made : List Call) : Watched :=
  made.foldl (fun w call => ((call.perform fetcher).run w).2) .fresh

@[simp] theorem after_snoc (fetcher : Fetcher) (made : List Call) (call : Call) :
    after fetcher (made ++ [call]) = ((call.perform fetcher).run (after fetcher made)).2 := by
  rw [after, List.foldl_append]
  rfl

/-- An event in a longer record is the last one or was there before. -/
theorem snoc_eq_append_cons {history front back : List Event} {last event : Event}
    (h : history ++ [last] = front ++ event :: back) :
    (history = front ∧ last = event) ∨ ∃ rest, history = front ++ event :: rest := by
  rcases List.eq_nil_or_concat back with rfl | ⟨rest, final, rfl⟩
  · exact .inl (by simpa using List.append_inj' h rfl)
  · refine .inr ⟨rest, ?_⟩
    rw [List.concat_eq_append, ← List.cons_append, ← List.append_assoc] at h
    exact (List.append_inj' h rfl).1

/-- What is true of a catalog and its record after every call. -/
structure Consistent (w : Watched) : Prop where
  /-- The catalog knows the names of the entries that the record knows. -/
  names : w.catalog.names = (known w.history).map namesOf
  /-- The fetcher was called only while nothing was known. -/
  idle : ∀ front outcome back, w.history = front ++ .fetched outcome :: back → known front = none

theorem consistent_fresh : Consistent .fresh where
  names := rfl
  idle := by
    intro front outcome back h
    cases front <;> cases h

namespace Consistent

variable {w : Watched}

/-- Names are loaded as long as the record knows their entries. -/
theorem isLoaded (h : Consistent w) : w.catalog.isLoaded = (known w.history).isSome := by
  rw [Catalog.isLoaded, h.names, Option.isSome_map]

/-- Nothing is loaded where the record knows nothing. -/
theorem known_eq_none (h : Consistent w) (hnames : w.catalog.names = none) :
    known w.history = none := by
  rw [h.names, Option.map_eq_none_iff] at hnames
  exact hnames

/-- A further event is harmless if it is no call of the fetcher, or one while nothing is known. -/
theorem idle_note (h : Consistent w) (event : Event)
    (hevent : event.isFetched = true → known w.history = none) :
    ∀ front outcome back, w.history ++ [event] = front ++ .fetched outcome :: back →
      known front = none := by
  intro front outcome back hsplit
  obtain ⟨rfl, rfl⟩ | ⟨rest, hrest⟩ := snoc_eq_append_cons hsplit
  · exact hevent rfl
  · exact h.idle front outcome rest hrest

/-- Every call keeps the catalog consistent with its record. -/
theorem course {fetcher : Fetcher} {call : Call} {result : Except Failure Reply × Watched}
    (h : Consistent w) (hcourse : Call.Course fetcher w call result) : Consistent result.2 := by
  cases hcourse with
  | idle | recalled => exact h
  | forgotten =>
    refine ⟨?_, h.idle_note .forgot nofun⟩
    simp only [Watched.catalog_note, Watched.catalog_put, Watched.history_note,
      Watched.history_put, known_snoc]
    rfl
  | failed hcall hnames hgather =>
    have hknown := h.known_eq_none hnames
    refine ⟨?_, h.idle_note _ fun _ => hknown⟩
    simp only [Watched.catalog_note, Watched.history_note, known_snoc, hnames, Event.remember,
      hknown, Option.map_none]
  | filled hcall hnames hgather =>
    rename_i entries
    have hknown := h.known_eq_none hnames
    have hfetched : Consistent
        (Watched.part.put ⟨some (namesOf entries)⟩ (w.note (.fetched (.ok entries)))) := by
      refine ⟨?_, h.idle_note _ fun _ => hknown⟩
      simp only [Watched.catalog_put, Watched.history_put, Watched.history_note, known_snoc,
        Event.remember, Option.map_some]
    refine ⟨?_, hfetched.idle_note (.announced _) nofun⟩
    rw [Watched.catalog_note, Watched.history_note, known_snoc, hfetched.names]
    rfl

end Consistent

/-- After any calls the catalog is consistent with its record. -/
theorem consistent_after (fetcher : Fetcher) (made : List Call) :
    Consistent (after fetcher made) := by
  induction made using List.reverseRecOn with
  | nil => exact consistent_fresh
  | append_singleton made call ih =>
    rw [after_snoc]
    exact ih.course (call.course fetcher _)

/-- Between a fetch that succeeded and the next call of the fetcher the names were forgotten. -/
theorem Consistent.forgot_mem {w : Watched} (h : Consistent w) {front middle back : List Event}
    {entries : List Value} {outcome : Except Failure (List Value)}
    (hsplit : w.history =
      front ++ .fetched (.ok entries) :: (middle ++ .fetched outcome :: back)) :
    .forgot ∈ middle := by
  by_contra hmem
  have hidle := h.idle (front ++ .fetched (.ok entries) :: middle) outcome back (by simp [hsplit])
  have hsome : (known (front ++ .fetched (.ok entries) :: middle)).isSome := by
    rw [known, List.foldl_append, List.foldl_cons]
    exact isSome_foldl_remember rfl hmem
  rw [hidle] at hsome
  cases hsome

/-- What a call at a catalog with its record answers and leaves. -/
structure Serves (fetcher : Fetcher) (w : Watched) (call : Call) (reply : Except Failure Reply)
    (t : Watched) : Prop where
  /-- The fetcher is called once by a lookup while nothing is loaded, and by no other call. -/
  fetches : fetches t.history =
    fetches w.history + if call.looksUp ∧ w.catalog.isLoaded = false then 1 else 0
  /-- A call of the fetcher that fails fails the lookup, and leaves nothing loaded. -/
  failed : call.looksUp → w.catalog.isLoaded = false →
    ∀ failure, gather (fetcher (Catalog.fetches w.history)) = .error failure →
      reply = .error failure ∧ known t.history = none ∧ t.catalog.isLoaded = false
  /-- A call of the fetcher that succeeds leaves its entries known. -/
  filled : call.looksUp → w.catalog.isLoaded = false →
    ∀ entries, gather (fetcher (Catalog.fetches w.history)) = .ok entries →
      known t.history = some entries ∧ t.catalog.isLoaded = true
  /-- A lookup while names are loaded changes nothing. -/
  recalled : call.looksUp → w.catalog.isLoaded = true → t = w
  /-- The search for an empty name finds nothing and changes nothing. -/
  idle : ∀ name, call = .hasTable name → name.truthy = false → reply = .ok (.found false) ∧ t = w
  /-- After the names are forgotten nothing is known. -/
  forgotten : call = .invalidate →
    reply = .ok .nothing ∧ known t.history = none ∧ t.catalog.isLoaded = false
  /-- A name is found if an entry is a text that is the name between blanks. -/
  found : ∀ name entries, call = .hasTable (.text name) → name ≠ "" →
    known t.history = some entries → ∃ answer, reply = .ok (.found answer) ∧
      (answer = true ↔ ∃ s, .text s ∈ entries ∧ Text.Trimmed s name)
  /-- The tables are the texts among the entries without the blanks around them, each once, and
  no empty name. -/
  listed : ∀ entries, call = .tables → known t.history = some entries →
    ∃ names, reply = .ok (.names names) ∧ names.Nodup ∧
      ∀ name, name ∈ names ↔ name ≠ "" ∧ ∃ s, .text s ∈ entries ∧ Text.Trimmed s name
  /-- Loading the names in advance answers nothing else. -/
  preloaded : ∀ entries, call = .preload → known t.history = some entries → reply = .ok .nothing

namespace Call

/-- A name is looked up among the texts of the entries. -/
theorem conclude_hasTable (entries : List Value) {name : String} (hname : name ≠ "") :
    ∃ answer, (hasTable (.text name)).conclude (namesOf entries) = .ok (.found answer) ∧
      (answer = true ↔ ∃ s, .text s ∈ entries ∧ Text.Trimmed s name) := by
  refine ⟨(namesOf entries).contains name, rfl, ?_⟩
  rw [List.contains_iff_mem, mem_namesOf]
  exact and_iff_right hname

/-- The tables are listed once each. -/
theorem conclude_tables (entries : List Value) :
    ∃ names, tables.conclude (namesOf entries) = .ok (.names names) ∧ names.Nodup ∧
      ∀ name, name ∈ names ↔ name ≠ "" ∧ ∃ s, .text s ∈ entries ∧ Text.Trimmed s name :=
  ⟨namesOf entries, rfl, nodup_namesOf entries, fun _ => mem_namesOf⟩

variable {fetcher : Fetcher} {w : Watched} {call : Call} {result : Except Failure Reply × Watched}

/-- A lookup answers about the entries that are known after it. -/
theorem Course.reply_eq (h : Consistent w) (hcourse : Course fetcher w call result)
    (hcall : call.looksUp = true) {entries : List Value}
    (hknown : known result.2.history = some entries) :
    result.1 = call.conclude (namesOf entries) := by
  have hnames : result.2.catalog.names = some (namesOf entries) := by
    rw [(h.course hcourse).names, hknown]
    rfl
  cases hcourse with
  | idle hname hfalse =>
    rw [hname, looksUp, hfalse] at hcall
    cases hcall
  | forgotten => cases hnames
  | recalled _ hloaded =>
    rw [hloaded, Option.some.injEq] at hnames
    rw [hnames]
  | filled =>
    rw [Watched.catalog_note, Watched.catalog_put, Option.some.injEq] at hnames
    rw [hnames]
  | failed _ hnone =>
    rw [Watched.catalog_note, hnone] at hnames
    cases hnames

/-- The fetcher is called exactly by a lookup while nothing is loaded. -/
theorem Course.fetches_eq (hcourse : Course fetcher w call result) :
    fetches result.2.history =
      fetches w.history + if call.looksUp ∧ w.catalog.isLoaded = false then 1 else 0 := by
  cases hcourse with
  | idle hname hfalse => simp [hname, looksUp, hfalse]
  | forgotten hinvalidate => simp [hinvalidate, looksUp, Event.isFetched]
  | recalled _ hnames => simp [isLoaded, hnames]
  | filled hcall hnames | failed hcall hnames =>
    simp [-List.append_assoc, hcall, isLoaded, hnames, Event.isFetched]

end Call

/-- A catalog that is consistent with its record serves every call. -/
theorem Consistent.serves {w : Watched} (h : Consistent w) (fetcher : Fetcher) (call : Call) :
    Serves fetcher w call ((call.perform fetcher).run w).1 ((call.perform fetcher).run w).2 := by
  have hcourse := call.course fetcher w
  refine
    { fetches := hcourse.fetches_eq
      failed := ?failed
      filled := ?filled
      recalled := ?recalled
      idle := ?idle
      forgotten := ?forgotten
      found := ?found
      listed := ?listed
      preloaded := ?preloaded }
  case failed =>
    intro hcall hloaded failure hfailure
    have hnames := names_eq_none hloaded
    rw [Call.run_perform_failed hcall hnames hfailure]
    refine ⟨rfl, ?_, hloaded⟩
    rw [Watched.history_note, known_snoc, h.known_eq_none hnames]
    rfl
  case filled =>
    intro hcall hloaded entries hentries
    rw [Call.run_perform_filled hcall (names_eq_none hloaded) hentries]
    refine ⟨?_, rfl⟩
    rw [Watched.history_note, known_snoc, Watched.history_put, Watched.history_note, known_snoc]
    rfl
  case recalled =>
    intro hcall hloaded
    obtain ⟨names, hnames⟩ := Option.isSome_iff_exists.mp hloaded
    rw [Call.run_perform_recalled hcall hnames]
  case idle =>
    rintro name rfl hname
    rw [Call.run_perform_empty hname]
    exact ⟨rfl, rfl⟩
  case forgotten =>
    rintro rfl
    refine ⟨rfl, ?_, rfl⟩
    exact known_snoc ..
  case found =>
    rintro name entries rfl hname hknown
    have hcall : (Call.hasTable (.text name)).looksUp = true := bne_iff_ne.mpr hname
    rw [hcourse.reply_eq h hcall hknown]
    exact Call.conclude_hasTable entries hname
  case listed =>
    rintro entries rfl hknown
    rw [hcourse.reply_eq h rfl hknown]
    exact Call.conclude_tables entries
  case preloaded =>
    rintro entries rfl hknown
    exact hcourse.reply_eq h rfl hknown

/-- After any calls, whatever the fetcher yields at each of its calls, the catalog is loaded while
the record knows a fetch that succeeded, there is no second fetch before the names are forgotten,
and the next call answers about that fetch. -/
theorem after_serves (fetcher : Fetcher) (made : List Call) :
    (after fetcher made).catalog.isLoaded = (known (after fetcher made).history).isSome ∧
      (∀ front entries middle outcome back, (after fetcher made).history =
          front ++ .fetched (.ok entries) :: (middle ++ .fetched outcome :: back) →
        .forgot ∈ middle) ∧
      ∀ call, Serves fetcher (after fetcher made) call
        ((call.perform fetcher).run (after fetcher made)).1 (after fetcher (made ++ [call])) := by
  have h := consistent_after fetcher made
  refine ⟨h.isLoaded, fun _ _ _ _ _ hsplit => h.forgot_mem hsplit, fun call => ?_⟩
  rw [after_snoc]
  exact h.serves fetcher call

/-- A fetcher that first fails halfway, then yields a table between blanks, and later another. -/
def unsteady : Fetcher
  | 0 => [.ok (.text "users"), .error .mistyped]
  | 1 => [.ok .null, .ok (.text "  "), .ok (.text " users ")]
  | _ => [.ok (.text "orders")]

/-- The second lookup fetches again and finds the table; when the names are forgotten it is gone. -/
theorem after_serves_unsteady :
    fetches (after unsteady [.tables, .preload]).history = 2 ∧
      (((Call.hasTable (.text "users")).perform unsteady).run
        (after unsteady [.tables, .preload])).1 = .ok (.found true) ∧
      (((Call.hasTable (.text "users")).perform unsteady).run
        (after unsteady [.tables, .preload, .invalidate])).1 = .ok (.found false) := by
  refine ⟨rfl, ?_, ?_⟩
  · obtain ⟨answer, hreply, hanswer⟩ :=
      ((after_serves unsteady [.tables, .preload]).2.2 (.hasTable (.text "users"))).found
        "users" _ rfl (by decide) rfl
    have htrim : Text.Trimmed " users " "users" := Text.trim_eq_iff.mp (by decide)
    rw [hreply, hanswer.mpr ⟨" users ", by simp, htrim⟩]
  · obtain ⟨answer, hreply, hanswer⟩ :=
      ((after_serves unsteady [.tables, .preload, .invalidate]).2.2
        (.hasTable (.text "users"))).found "users" _ rfl (by decide) rfl
    have hfalse : answer = false := by
      rw [Bool.eq_false_iff]
      intro htrue
      obtain ⟨s, hs, htrim⟩ := hanswer.mp htrue
      cases List.mem_singleton.mp hs
      exact absurd (Text.trim_eq_iff.mpr htrim) (by decide)
    rw [hreply, hfalse]

end Catalog

end BoundSql
