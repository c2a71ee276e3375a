import BoundSql.Proofs.Query.Calls
import BoundSql.Proofs.Statement.Image

/-!
# Builders that differ in bound values only

Two queries are alike when forgetting every value to be bound makes the same of them. Calls that are
alike in the same way keep them so, or fail with the same failure. Builders with such queries render
to the same texts with the same placeholders, and stay so when both are put back.
-/

namespace BoundSql

open Attempt

/-- Forget a value. -/
def Value.forget (_ : Value) : Value := .null

/-- Members that are the same without their values. -/
def Token.Alike (token token' : Token) : Prop :=
  token'.mapValues Value.forget = token.mapValues Value.forget

/-- Calls that are the same without the values to be bound. -/
def Clause.Alike (call call' : Clause) : Prop :=
  call'.mapValues Value.forget = call.mapValues Value.forget

/-- Queries that are the same without the values to be bound. -/
def Query.Alike : Query → Query → Prop := Relation.Join (Query.Image Value.forget)

namespace Query

variable {q q' : Query}

theorem alike_fresh : Alike .fresh .fresh := ⟨.fresh, image_fresh, image_fresh⟩

namespace Alike

/-- Queries that are alike are of the same kind. -/
theorem kind (h : Alike q q') : q'.kind = q.kind := by
  obtain ⟨_, ⟨_, rfl, _⟩, _, heq, _⟩ := h
  exact (congrArg Query.kind heq).symm

/-- They select the same columns. -/
theorem columns (h : Alike q q') : q'.columns = q.columns := by
  obtain ⟨_, ⟨_, rfl, _⟩, _, heq, _⟩ := h
  exact (congrArg Query.columns heq).symm

theorem orderBy (h : Alike q q') : q'.orderBy = q.orderBy := by
  obtain ⟨_, ⟨_, rfl, _⟩, _, heq, _⟩ := h
  exact (congrArg Query.orderBy heq).symm

theorem limit (h : Alike q q') : q'.limit = q.limit := by
  obtain ⟨_, ⟨_, rfl, _⟩, _, heq, _⟩ := h
  exact (congrArg Query.limit heq).symm

theorem offset (h : Alike q q') : q'.offset = q.offset := by
  obtain ⟨_, ⟨_, rfl, _⟩, _, heq, _⟩ := h
  exact (congrArg Query.offset heq).symm

theorem isGrouped (h : Alike q q') : q'.isGrouped = q.isGrouped := by
  obtain ⟨_, hq, hq'⟩ := h
  rw [← isGrouped_image hq, ← isGrouped_image hq']

/-- A change that does not depend on values keeps queries alike. -/
theorem change {g : Query → Query}
    (hdata : ∀ q data, { (g q).mapValues Value.forget with insert := data } =
      g { q.mapValues Value.forget with insert := data })
    (hinsert : ∀ q, (g q).insert = q.insert) (h : Alike q q') : Alike (g q) (g q') := by
  obtain ⟨mid, hq, hq'⟩ := h
  have hchange := parallel_set hdata hinsert
  exact ⟨g mid, (hchange q mid hq).2, (hchange q' mid hq').2⟩

/-- A change that writes one of two alike members keeps queries alike. -/
theorem addToken {g : Token → Query → Query}
    (hdata : ∀ token q data, { (g token q).mapValues Value.forget with insert := data } =
      g (token.mapValues Value.forget) { q.mapValues Value.forget with insert := data })
    (hinsert : ∀ token q, (g token q).insert = q.insert) {token token' : Token}
    (htoken : token.Alike token') (h : Alike q q') : Alike (g token q) (g token' q') := by
  obtain ⟨mid, hq, hq'⟩ := h
  have hadd := parallel_set (hdata token) (hinsert token)
  have hadd' := parallel_set (hdata token') (hinsert token')
  rw [htoken] at hadd'
  exact ⟨g (token.mapValues Value.forget) mid, (hadd q mid hq).2, (hadd' q' mid hq').2⟩

/-- Conditions that are alike are added alike. -/
theorem addWhere {token token' : Token} (htoken : token.Alike token') (h : Alike q q') :
    Alike { q with wheres := q.wheres ++ [token] } { q' with wheres := q'.wheres ++ [token'] } :=
  h.addToken (g := fun token q => { q with wheres := q.wheres ++ [token] })
    (fun _ _ _ => by simp [mapValues]) (fun _ _ => rfl) htoken

theorem addHaving {token token' : Token} (htoken : token.Alike token') (h : Alike q q') :
    Alike { q with having := q.having ++ [token] } { q' with having := q'.having ++ [token'] } :=
  h.addToken (g := fun token q => { q with having := q.having ++ [token] })
    (fun _ _ _ => by simp [mapValues]) (fun _ _ => rfl) htoken

end Alike

end Query

/-- Calls that are alike run in parallel on queries that are alike. -/
theorem Clause.Alike.parallel {call call' : Clause} (h : call.Alike call') :
    Parallel Query.Alike Eq call.apply call'.apply := by
  have hcall := Clause.parallel_apply (f := Value.forget) call
  have hcall' := Clause.parallel_apply (f := Value.forget) call'
  rw [h] at hcall'
  exact (hcall.join hcall').imp fun _ _ ⟨_, heq, heq'⟩ => heq.trans heq'.symm

/-- Builders whose queries are alike, at the same counter and dialect; what they bound before may
differ. -/
structure Builder.Alike (b b' : Builder) : Prop where
  /-- The queries are alike. -/
  query : Query.Alike b.query b'.query
  /-- As many names were issued. -/
  binder : Binder.Level b.binder b'.binder
  /-- Placeholders are written alike. -/
  dialect : b'.dialect = b.dialect

/-- Rendered statements with the same text and the same placeholders. -/
structure Compiled.Alike (c c' : Compiled) : Prop where
  /-- The text is the same. -/
  sql : c'.sql = c.sql
  /-- So are the names of the placeholders. -/
  names : Entries.keys c'.params = Entries.keys c.params

/-- Snapshots that differ in bindings only. -/
structure Snapshot.Alike (taken taken' : Snapshot) : Prop where
  /-- As many names were issued. -/
  binder : Binder.Level taken.binder taken'.binder
  /-- The columns are the same, -/
  columns : taken'.columns = taken.columns
  /-- the ordering, -/
  orderBy : taken'.orderBy = taken.orderBy
  /-- and the bounds. -/
  bounds : taken'.limit = taken.limit ∧ taken'.offset = taken.offset

namespace Builder

theorem alike_fresh (d : Dialect) : Alike (.fresh d) (.fresh d) := ⟨Query.alike_fresh, rfl, rfl⟩

/-- Builders are alike exactly if forgetting their values leads to a common one. -/
theorem alike_iff_join {b b' : Builder} :
    Alike b b' ↔ Relation.Join (Image Value.forget) b b' := by
  constructor
  · rintro ⟨⟨mid, hq, hq'⟩, hbinder, hdialect⟩
    exact ⟨⟨mid, b.binder, b.dialect⟩, ⟨hq, rfl, rfl⟩, ⟨hq', hbinder.symm, hdialect.symm⟩⟩
  · rintro ⟨mid, h, h'⟩
    exact ⟨⟨mid.query, h.query, h'.query⟩, h'.binder.symm.trans h.binder,
      h'.dialect.symm.trans h.dialect⟩

/-- What runs in parallel with the same on images does so on builders that are alike. -/
theorem parallel_of_image {act : Attempt Builder Compiled}
    (h : Parallel (Image Value.forget) (fun c c' => c' = c.mapValues Value.forget) act act) :
    Parallel Alike Compiled.Alike act act := by
  have hjoin := h.join h
  intro b b' hb
  obtain ⟨hout, hend⟩ := hjoin b b' (alike_iff_join.mp hb)
  refine ⟨hout.imp ?_, alike_iff_join.mpr hend⟩
  rintro c c' ⟨_, rfl, heq⟩
  refine ⟨(congrArg Compiled.sql heq).symm, ?_⟩
  have hparams :
      Entries.mapValues Value.forget c.params = Entries.mapValues Value.forget c'.params :=
    congrArg Compiled.params heq
  rw [← Entries.keys_mapValues Value.forget c.params, hparams, Entries.keys_mapValues]

/-- A call for one kind of query is refused by both or by neither. -/
theorem parallel_requireKind (call : KindedCall) :
    Parallel Alike Eq (requireKind call) (requireKind call) := by
  refine Parallel.state.bind fun b b' h => ?_
  rw [h.query.kind]
  split
  · exact .pure rfl
  · exact .fail _

/-- Snapshots of builders that are alike are alike. -/
theorem Alike.snapshot {b b' : Builder} (h : Alike b b') : Snapshot.Alike b.snapshot b'.snapshot :=
  ⟨h.binder, h.query.columns, h.query.orderBy, h.query.limit, h.query.offset⟩

/-- Builders that are alike stay so when they are put back to snapshots that are alike. -/
theorem Alike.restore {b b' : Builder} (h : Alike b b') {taken taken' : Snapshot}
    (htaken : Snapshot.Alike taken taken') : Alike (b.restore taken) (b'.restore taken') := by
  refine ⟨?_, htaken.binder, h.dialect⟩
  unfold Builder.restore
  rw [htaken.columns, htaken.orderBy, htaken.bounds.1, htaken.bounds.2]
  exact h.query.change (g := fun q => { q with
    columns := taken.columns, orderBy := taken.orderBy, limit := taken.limit
    offset := taken.offset }) (fun _ _ => rfl) fun _ => rfl

end Builder

/-- What runs in parallel does so also when the builders are put back afterwards. -/
theorem Attempt.Parallel.preserving {σ τ α β : Type} {R : σ → τ → Prop} {Q : α → β → Prop}
    {part : Part σ Builder} {part' : Part τ Builder}
    (hget : ∀ s t, R s t → Builder.Alike (part.get s) (part'.get t))
    (hput : ∀ s t b b', R s t → Builder.Alike b b' → R (part.put b s) (part'.put b' t))
    {left : Attempt σ α} {right : Attempt τ β} (h : Parallel R Q left right) :
    Parallel R Q (Attempt.preserving part left) (Attempt.preserving part' right) := by
  intro s t hR
  have hsaved := (hget s t hR).snapshot
  obtain ⟨hout, hend⟩ := h s t hR
  exact ⟨hout, hput _ _ _ _ hend ((hget _ _ hend).restore hsaved)⟩

end BoundSql
