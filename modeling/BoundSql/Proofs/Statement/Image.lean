import BoundSql.Proofs.Query.Image
import BoundSql.Proofs.Statement.Bindings

/-!
# Rendering the image of a query

From equal counters a query and its image render to the same text, or fail with the same failure: a
value is replaced by a placeholder before anything is written. The bindings of the image are the
images of the bindings, because a statement that renders has columns that can be written.
-/

namespace BoundSql

variable {f : Value → Value}

/-- Binders that have issued equally many names. -/
def Binder.Level (b b' : Binder) : Prop := b'.counter = b.counter

open Attempt

namespace Expression

variable (d : Dialect) (clause : String)

/-- A value gets the same placeholder, whatever it is. -/
theorem parallel_placeholder (v w : Value) :
    Parallel Binder.Level Eq (placeholder d v) (placeholder d w) := by
  intro b b' hb
  rw [run_placeholder, run_placeholder, hb]
  exact ⟨.ok rfl, congrArg Nat.succ hb⟩

/-- As many values get the same placeholders, whatever they are. -/
theorem parallel_placeholders {vs ws : List Value} (h : ws.length = vs.length) :
    Parallel Binder.Level Eq (Attempt.forAll vs (placeholder d))
      (Attempt.forAll ws (placeholder d)) := by
  intro b b' hb
  rw [run_forAll_placeholder, run_forAll_placeholder, hb, h]
  exact ⟨.ok rfl, by simp [Binder.Level, hb.symm, h]⟩

/-- A test writes the same text whatever its values are. -/
theorem parallel_body (t : Test) :
    Parallel Binder.Level Eq (body d t) (body d (t.mapValues f)) := by
  cases t with
  | compare column operator value =>
    refine .ofExcept_bind fun column _ => .ofExcept_bind fun operator _ => ?_
    refine Parallel.bind (parallel_placeholder d value (f value)) ?_
    rintro p _ rfl
    exact .pure rfl
  | oneOf column values negated =>
    refine Parallel.bind (parallel_placeholders d (List.length_map f)) ?_
    rintro ps _ rfl
    exact .ofExcept_bind fun column _ => .pure rfl
  | raw sql => exact .pure rfl

theorem parallel_step (p : Progress) (token : Token) :
    Parallel Binder.Level Eq (step d clause p token) (step d clause p (token.mapValues f)) := by
  cases token with
  | test c t =>
    refine Parallel.bind (parallel_body d t) ?_
    rintro text _ rfl
    exact .ofExcept (.refl _)
  | opening c => exact .pure rfl
  | closing => exact .ofExcept (.refl _)
  | foreign s => exact .fail _

theorem parallel_steps (p : Progress) (tokens : List Token) :
    Parallel Binder.Level Eq (steps d clause p tokens)
      (steps d clause p (tokens.map (Token.mapValues f))) := by
  induction tokens generalizing p with
  | nil => exact .pure rfl
  | cons token rest ih =>
    refine Parallel.bind (parallel_step d clause p token) ?_
    rintro q _ rfl
    exact ih q

/-- A clause reads the same whatever its values are. -/
theorem parallel_renderClause (tokens : List Token) (guarded : Bool) :
    Parallel Binder.Level Eq (renderClause d clause tokens guarded)
      (renderClause d clause (tokens.map (Token.mapValues f)) guarded) := by
  have hrender : Parallel Binder.Level Eq (render d clause tokens)
      (render d clause (tokens.map (Token.mapValues f))) := by
    refine Parallel.bind (parallel_steps d clause .start tokens) ?_
    rintro p _ rfl
    split
    · exact .pure rfl
    · exact .fail _
  refine Parallel.bind hrender ?_
  rintro expression _ rfl
  split
  · exact .pure rfl
  · split <;> exact .pure rfl

end Expression

namespace Query

variable (d : Dialect) {q q' : Query}

/-- A select writes the same text as its image. -/
theorem parallel_renderSelect (h : Image f q q') (columns : List Value) (withTail : Bool) :
    Parallel Binder.Level Eq (renderSelect d q columns withTail)
      (renderSelect d q' columns withTail) := by
  obtain ⟨data, rfl, _⟩ := h
  refine .ofExcept_bind fun _ _ => .ofExcept_bind fun columns _ => ?_
  refine .ofExcept_bind fun table _ => ?_
  refine Parallel.bind (Expression.parallel_renderClause d "WHERE" q.wheres false) ?_
  rintro wheres _ rfl
  refine .ofExcept_bind fun groups _ => ?_
  refine Parallel.bind (Expression.parallel_renderClause d "HAVING" q.having false) ?_
  rintro having _ rfl
  exact .ofExcept_bind fun tail _ => .pure rfl

/-- An image is grouped exactly if the query is. -/
theorem isGrouped_image (h : Image f q q') : q'.isGrouped = q.isGrouped := by
  obtain ⟨data, rfl, _⟩ := h
  simp [isGrouped, mapValues]

/-- The count reads the same whatever the values are. -/
theorem parallel_renderCount (h : Image f q q') :
    Parallel Binder.Level Eq (renderCount d q) (renderCount d q') := by
  have hcolumns : q'.columns = q.columns := by
    obtain ⟨data, rfl, _⟩ := h
    rfl
  unfold renderCount
  rw [isGrouped_image h, hcolumns]
  split
  · refine Parallel.bind (parallel_renderSelect d h q.columns false) ?_
    rintro inner _ rfl
    exact .pure rfl
  · exact parallel_renderSelect d h _ false

/-- Rows of one length write the same text. -/
theorem parallel_renderRow {row row' : List Value} (h : row'.length = row.length) :
    Parallel Binder.Level Eq (renderRow d row) (renderRow d row') := by
  refine Parallel.bind (Expression.parallel_placeholders d h) ?_
  rintro ps _ rfl
  exact .pure rfl

/-- Rows read the same when they are equally long. -/
theorem parallel_renderRows (htable : q'.table = q.table) (columns : List Value)
    {rows rows' : List (List Value)}
    (h : List.Forall₂ (fun row row' => row'.length = row.length) rows rows') :
    Parallel Binder.Level Eq (renderRows d q columns rows) (renderRows d q' columns rows') := by
  have hrows := Parallel.forAll h fun row row' hlength => parallel_renderRow d hlength
  refine Parallel.bind hrows fun texts texts' htexts => ?_
  obtain rfl := List.forall₂_eq_eq_eq ▸ htexts
  rw [htable]
  exact .ofExcept_bind fun table _ => .ofExcept_bind fun columns _ => .pure rfl

/-- An insert writes the same text as its image. -/
theorem parallel_renderInsert (h : Image f q q') :
    Parallel Binder.Level Eq (renderInsert d q) (renderInsert d q') := by
  obtain ⟨data, rfl, hdata⟩ := h
  have hrows : ∀ columns rows rows',
      List.Forall₂ (fun row row' : List Value => row'.length = row.length) rows rows' →
      Parallel Binder.Level Eq (renderRows d q columns rows)
        (renderRows d { q.mapValues f with insert := data } columns rows') :=
    fun columns _ _ => parallel_renderRows d rfl columns
  refine .ofExcept_bind fun _ _ => ?_
  dsimp only
  generalize q.insert = given at hdata ⊢
  cases hdata with
  | none => exact .fail _
  | some hdata =>
    cases hdata with
    | single row =>
      cases row with
      | nil => exact .fail _
      | cons entry row =>
        have hkeys := Entries.keys_mapValues f (entry :: row)
        have hvalues := Entries.values_mapValues f (entry :: row)
        have h := hrows (Entries.keys (entry :: row)) [Entries.values (entry :: row)]
          [(Entries.values (entry :: row)).map f] (.cons (by simp) .nil)
        rw [← hvalues] at h
        nth_rewrite 2 [← hkeys] at h
        exact h
    | rows columns hcells =>
      cases columns with
      | nil => exact .fail _
      | cons column columns =>
        cases hcells with
        | nil => exact .fail _
        | cons hrow hrest =>
          exact hrows _ _ _ (.cons hrow.1 (hrest.imp fun _ _ hcells => hcells.1))

theorem parallel_renderUpdate (h : Image f q q') :
    Parallel Binder.Level Eq (renderUpdate d q) (renderUpdate d q') := by
  obtain ⟨data, rfl, _⟩ := h
  refine .ofExcept_bind fun _ _ => ?_
  have hempty : (q.mapValues f).update.isEmpty = q.update.isEmpty := by
    simp [mapValues, Entries.mapValues]
  dsimp only
  rw [hempty]
  split
  · exact .fail _
  · have hsets : Parallel Binder.Level (List.Forall₂ Eq)
        (Attempt.forAll q.update (renderSet d))
        (Attempt.forAll (q.mapValues f).update (renderSet d)) := by
      refine Parallel.forAll (P := fun entry entry' => entry'.1 = entry.1) ?_ ?_
      · exact List.forall₂_map_right_iff.mpr (List.forall₂_same.mpr fun _ _ => rfl)
      · intro entry entry' hkey
        unfold renderSet
        rw [hkey]
        refine .ofExcept_bind fun column _ => ?_
        refine Parallel.bind (Expression.parallel_placeholder d entry.2 entry'.2) ?_
        rintro p _ rfl
        exact .pure rfl
    refine Parallel.bind hsets fun sets sets' heq => ?_
    obtain rfl := List.forall₂_eq_eq_eq ▸ heq
    refine Parallel.bind (Expression.parallel_renderClause d "WHERE" q.wheres true) ?_
    rintro wheres _ rfl
    exact .ofExcept_bind fun table _ => .pure rfl

theorem parallel_renderDelete (h : Image f q q') :
    Parallel Binder.Level Eq (renderDelete d q) (renderDelete d q') := by
  obtain ⟨data, rfl, _⟩ := h
  refine .ofExcept_bind fun _ _ => ?_
  refine Parallel.bind (Expression.parallel_renderClause d "WHERE" q.wheres true) ?_
  rintro wheres _ rfl
  exact .ofExcept_bind fun table _ => .pure rfl

/-- The statement reads the same whatever the values are. -/
theorem parallel_render (h : Image f q q') :
    Parallel Binder.Level Eq (render d q) (render d q') := by
  have hsame : q'.requireTable = q.requireTable ∧ q'.kind = q.kind ∧ q'.columns = q.columns := by
    obtain ⟨data, rfl, _⟩ := h
    exact ⟨rfl, rfl, rfl⟩
  unfold render
  rw [hsame.1, hsame.2.1, hsame.2.2]
  refine .ofExcept_bind fun _ _ => ?_
  cases q.kind with
  | select => exact parallel_renderSelect d h q.columns true
  | insert => exact parallel_renderInsert d h
  | update => exact parallel_renderUpdate d h
  | delete => exact parallel_renderDelete d h
  | unset => exact .fail _
  | unknown name => exact .fail _

/-- An insert of rows renders only under columns that are texts. -/
theorem allTexts_of_render {q : Query} {columns : List Value} {cells : List (List Value)}
    (hkind : q.kind = .insert) (hdata : q.insert = some (.rows columns cells)) {b b' : Binder}
    {sql : String} (h : (q.render d).run b = (.ok sql, b')) : AllTexts columns := by
  obtain ⟨_, _, _, h⟩ := run_bind_eq_ok h
  rw [hkind] at h
  obtain ⟨_, _, _, h⟩ := run_bind_eq_ok h
  rw [hdata] at h
  cases columns with
  | nil => cases h
  | cons column columns =>
    cases cells with
    | nil => cases h
    | cons row rows =>
      obtain ⟨_, _, _, h⟩ := run_bind_eq_ok h
      obtain ⟨_, _, h⟩ := run_ofExcept_bind_eq_ok h
      obtain ⟨texts, htexts, _⟩ := run_ofExcept_bind_eq_ok h
      exact allTexts_of_columnTexts htexts

/-- A statement that renders binds the images of the values. -/
theorem Image.boundValues (h : Image f q q') {b b' : Binder} {sql : String}
    (hr : (q.render d).run b = (.ok sql, b')) : q'.boundValues = q.boundValues.map f := by
  obtain ⟨data, rfl, hdata⟩ := h
  rw [← boundValues_mapValues]
  unfold Query.boundValues
  simp only [mapValues]
  cases hkind : q.kind with
  | insert =>
    dsimp only
    generalize hinsert : q.insert = given at hdata ⊢
    cases hdata with
    | none => rfl
    | some hdata =>
      cases hdata with
      | single row => rfl
      | rows columns hcells =>
        rename_i cells cells'
        have htexts := allTexts_of_render d hkind hinsert hr
        have heq : List.Forall₂ Eq (cells.map (List.map f)) cells' :=
          List.forall₂_map_left_iff.mpr (hcells.imp fun _ _ hrow => (hrow.2 htexts).symm)
        rw [List.forall₂_eq_eq_eq] at heq
        rw [← heq]
        rfl
  | _ => rfl

end Query

/-- The same rendered statement with the images of its values. -/
def Compiled.mapValues (f : Value → Value) (c : Compiled) : Compiled :=
  { c with params := Entries.mapValues f c.params }

namespace Builder

/-- The same builder with the image of its query; what it rendered before may have been bound
differently. -/
structure Image (f : Value → Value) (b b' : Builder) : Prop where
  /-- The query is an image. -/
  query : Query.Image f b.query b'.query
  /-- As many names were issued. -/
  binder : Binder.Level b.binder b'.binder
  /-- Placeholders are written alike. -/
  dialect : b'.dialect = b.dialect

theorem image_fresh (d : Dialect) : Image f (.fresh d) (.fresh d) := ⟨Query.image_fresh, rfl, rfl⟩

/-- Renders whose texts are parallel answer the same text and the images of the bindings. -/
theorem parallel_renderWith {b b' : Builder} (h : Image f b b') {text text' : Attempt Binder String}
    {vs ws : List Value} (htext : Parallel Binder.Level Eq text text') (hvs : text.Binds vs)
    (hws : text'.Binds ws)
    (hmap : ∀ sql binder, text.run b.binder.reset = (.ok sql, binder) → ws = vs.map f) :
    Agrees (fun c c' => c' = c.mapValues f) ((renderWith text).run b).1
        ((renderWith text').run b').1 ∧
      Image f ((renderWith text).run b).2 ((renderWith text').run b').2 := by
  obtain ⟨hout, hend⟩ := htext b.binder.reset b'.binder.reset h.binder
  rw [run_renderWith, run_renderWith]
  rcases hrun : text.run b.binder.reset with ⟨outcome, binder⟩
  rcases hrun' : text'.run b'.binder.reset with ⟨outcome', binder'⟩
  rw [hrun, hrun'] at hout hend
  cases hout with
  | error failure => exact ⟨.error failure, h.query, hend, h.dialect⟩
  | ok heq =>
    subst heq
    refine ⟨.ok ?_, h.query, hend, h.dialect⟩
    have hparams : binder'.params = Entries.mapValues f binder.params := by
      rw [hvs _ _ _ hrun, hws _ _ _ hrun', Binder.params_reset_bindAll,
        Binder.params_reset_bindAll, h.binder, hmap _ _ hrun, List.length_map,
        List.zip_map_right]
      rfl
    simp only [Compiled.mapValues, hparams, h.dialect]

/-- A builder and its image compile to the same text, or fail with the same failure. -/
theorem parallel_compile :
    Parallel (Image f) (fun c c' => c' = c.mapValues f) compile compile := by
  refine Parallel.state.bind fun b b' h => ?_
  rw [h.dialect]
  have htext := Query.parallel_render b.dialect h.query
  have hvs := Query.binds_render b.dialect b.query
  have hws := Query.binds_render b.dialect b'.query
  intro s s' hs
  exact parallel_renderWith hs htext hvs hws fun sql binder => h.query.boundValues b.dialect

/-- A builder and its image compile to the same count, or fail with the same failure. -/
theorem parallel_compileCount :
    Parallel (Image f) (fun c c' => c' = c.mapValues f) compileCount compileCount := by
  have hkind : Parallel (Image f) Eq (requireKind .compileCount) (requireKind .compileCount) := by
    refine Parallel.state.bind fun b b' h => ?_
    have heq : b'.query.kind = b.query.kind := by
      obtain ⟨data, hq, _⟩ := h.query
      rw [hq]
      rfl
    rw [heq]
    split
    · exact .pure rfl
    · exact .fail _
  refine Parallel.bind hkind fun _ _ _ => Parallel.state.bind fun b b' h => ?_
  rw [h.dialect]
  have htext := Query.parallel_renderCount b.dialect h.query
  have hvs := Query.binds_renderCount b.dialect b.query
  have hws := Query.binds_renderCount b.dialect b'.query
  intro s s' hs
  refine parallel_renderWith hs htext hvs hws fun _ _ _ => ?_
  obtain ⟨data, hq, _⟩ := h.query
  rw [hq, List.map_append, ← Query.conditionValues_mapValues, ← Query.conditionValues_mapValues]
  rfl

end Builder

end BoundSql
