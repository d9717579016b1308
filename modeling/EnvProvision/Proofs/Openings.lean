import EnvProvision.Proofs.Composition
import EnvProvision.Proofs.Grammar
import EnvProvision.Text.Split

namespace EnvProvision

namespace Template

-- There is an opening behind `before`, and `inner` is what stands between it and the first `}`.
structure Closed (cs before inner after : List Char) : Prop where
  eq : cs = before ++ '#' :: '{' :: inner ++ '}' :: after
  first : '}' ∉ inner

-- The opening belongs to the placeholder between `left` and `right`, which is closed with it.
structure ClosedWithin (parts left right : List Segment) (whole before inner after : List Char) :
    Prop where
  parts_eq : parts = left ++ .reference whole :: right
  opening : ∃ start, before = render left ++ start ∧
    '#' :: '{' :: whole = start ++ '#' :: '{' :: inner
  after_eq : after = render right

-- The text that segments contribute, one after the other.
def Fills (Offers : String → Option String → Prop) (parts : List Segment) (value : String) : Prop :=
  ∃ pieces, value = String.join pieces ∧ List.Forall₂ (Contributes Offers) parts pieces

section

variable {cs text before inner after : List Char} {parts left right : List Segment}

theorem render_append (left right : List Segment) :
    render (left ++ right) = render left ++ render right :=
  List.flatMap_append

theorem inLiteral_append (left right : List Segment) (place : Nat) :
    inLiteral (left ++ right) ((render left).length + place) = inLiteral right place := by
  induction left with
  | nil => simp [render]
  | cons part rest ih =>
    have hlength : (render (part :: rest)).length = part.written.length + (render rest).length := by
      simp [render]
    have hplace : ¬(render (part :: rest)).length + place < part.written.length := by omega
    have hrest : (render (part :: rest)).length + place - part.written.length =
        (render rest).length + place := by omega
    rw [List.cons_append, inLiteral, if_neg hplace, hrest, ih]

theorem Closed.startsClosed (h : Closed cs before inner after) (hfeed : '\n' ∉ inner) :
    StartsClosed (cs.drop before.length) := by
  refine ⟨inner, after, ⟨h.first, hfeed⟩, ?_⟩
  simp [h.eq]

-- An opening at the start of the first placeholder, or within it, is closed where that is.
theorem exists_start_of_reference {whole : List Char}
    (h : Closed (render (.reference whole :: right)) before inner after)
    (hwhole : IsInner whole) (hplace : before.length ≤ whole.length + 2) :
    '#' :: '{' :: whole = before ++ '#' :: '{' :: inner ∧ after = render right := by
  have heq := h.eq
  rw [render_reference, List.append_assoc] at heq
  have hprefix : before <+: '#' :: '{' :: whole :=
    List.prefix_of_prefix_length_le ⟨_, heq.symm⟩ (List.prefix_append _ _) hplace
  obtain ⟨tail, htail⟩ := hprefix
  have hbrace : '}' ∉ before ++ tail := by simp [htail, hwhole.left]
  have htailBrace : '}' ∉ tail := fun hm => hbrace (List.mem_append_right _ hm)
  have hinnerBrace : '}' ∉ '#' :: '{' :: inner := by simp [h.first]
  rw [← htail, List.append_assoc, List.append_cancel_left_eq] at heq
  have hsplit := Text.splitFirst?_append htailBrace (render right)
  rw [heq, Text.splitFirst?_append hinnerBrace] at hsplit
  obtain ⟨rfl, rfl⟩ := Prod.mk.inj (Option.some.inj hsplit)
  exact ⟨htail.symm, rfl⟩

theorem exists_closedWithin (h : Closed (render parts) before inner after)
    (hinner : ∀ whole, .reference whole ∈ parts → IsInner whole)
    (hplace : inLiteral parts before.length = false) :
    ∃ left right whole, ClosedWithin parts left right whole before inner after := by
  induction parts generalizing before with
  | nil => simpa [render] using h.eq
  | cons part rest ih =>
    by_cases hfirst : before.length < part.written.length
    case pos =>
      cases part with
      | literal text => simp [inLiteral, hfirst, Segment.isLiteral] at hplace
      | reference whole =>
        have hlength : before.length ≤ whole.length + 2 := by
          simpa [Segment.written, Nat.lt_succ_iff] using hfirst
        obtain ⟨hstart, hafter⟩ :=
          exists_start_of_reference h (hinner whole List.mem_cons_self) hlength
        exact ⟨[], rest, whole, rfl, ⟨before, rfl, hstart⟩, hafter⟩
    case neg =>
      have heq : part.written ++ render rest = before ++ ('#' :: '{' :: inner ++ '}' :: after) := by
        simpa [render] using h.eq
      obtain ⟨more, rfl⟩ : part.written <+: before :=
        List.prefix_of_prefix_length_le ⟨_, heq⟩ (List.prefix_append _ _) (Nat.not_lt.mp hfirst)
      rw [List.append_assoc, List.append_cancel_left_eq] at heq
      have hrest : inLiteral rest more.length = false := by
        rw [inLiteral, if_neg hfirst, List.length_append, Nat.add_sub_cancel_left] at hplace
        exact hplace
      obtain ⟨left, right, whole, rfl, ⟨start, rfl, hstart⟩, hafter⟩ :=
        ih ⟨by simpa using heq, h.first⟩
          (fun whole hm => hinner whole (List.mem_cons_of_mem _ hm)) hrest
      exact ⟨part :: left, right, whole, rfl, ⟨start, by simp [render], hstart⟩, hafter⟩

theorem ClosedWithin.lineFeed_notMem {whole : List Char}
    (h : ClosedWithin parts left right whole before inner after) (hwhole : IsInner whole) :
    '\n' ∉ inner := by
  obtain ⟨start, _, hstart⟩ := h.opening
  intro hm
  have hfeed : '\n' ∈ '#' :: '{' :: whole := by
    rw [hstart]
    simp [hm]
  simp [hwhole.right] at hfeed

-- The opening of a placeholder is taken for text just where it is not closed on its line.
theorem inLiteral_segments_iff (h : Closed cs before inner after) :
    inLiteral (segments cs) before.length ↔ '\n' ∈ inner := by
  have hreads := reads_segments cs
  constructor
  case mp =>
    intro hplace
    by_contra hfeed
    exact hreads.not_startsClosed _ hplace (h.startsClosed hfeed)
  case mpr =>
    intro hfeed
    by_contra hplace
    have hrender : Closed (render (segments cs)) before inner after := by
      rw [hreads.render_eq]
      exact h
    obtain ⟨left, right, whole, hwithin⟩ :=
      exists_closedWithin hrender hreads.isInner (Bool.eq_false_iff.mpr hplace)
    have hmem : .reference whole ∈ segments cs := by simp [hwithin.parts_eq]
    exact hwithin.lineFeed_notMem (hreads.isInner whole hmem) hfeed

theorem lineFeed_mem_of_literal (hm : .literal text ∈ segments cs)
    (h : Closed text before inner after) : '\n' ∈ inner := by
  obtain ⟨left, right, hparts⟩ := List.append_of_mem hm
  have hcs : cs = render left ++ (text ++ render right) := by
    rw [← (reads_segments cs).render_eq, hparts, render_append]
    simp [render, Segment.written]
  have hclosed : Closed cs (render left ++ before) inner (after ++ render right) :=
    ⟨by simp [hcs, h.eq], h.first⟩
  have hlength : before.length < text.length := by
    simp only [h.eq, List.length_append, List.length_cons]
    omega
  rw [← inLiteral_segments_iff hclosed, List.length_append, hparts, inLiteral_append]
  simp [inLiteral, Segment.written, Segment.isLiteral, hlength]

theorem Fills.exists_append {Offers : String → Option String → Prop} {value : String}
    (h : Fills Offers (left ++ right) value) :
    ∃ head tail, value = head ++ tail ∧ Fills Offers left head ∧ Fills Offers right tail := by
  obtain ⟨pieces, rfl, hpieces⟩ := h
  have hhead := List.forall₂_take_append pieces left right hpieces.flip
  have htail := List.forall₂_drop_append pieces left right hpieces.flip
  refine ⟨_, _, ?_, ⟨_, rfl, hhead.flip⟩, ⟨_, rfl, htail.flip⟩⟩
  rw [← String.join_append, List.take_append_drop]

end

end Template

open Template

namespace Batch

-- What a name stands for outside of the template: its variable, else another record, else a secret.
inductive Supplies (batch : Batch) (env : Reader) (key candidate value : String) : Prop
  | environment : env candidate = .ok (some value) → Supplies batch env key candidate value
  | sibling :
    candidate ≠ key → (batch.resolve env candidate).outcome = .ok (some value) →
    Supplies batch env key candidate value
  | file {scope secrets} :
    batch.storage = .file scope secrets →
    secrets.get? (Storage.fullKey scope candidate) = some value →
    Supplies batch env key candidate value
  | remote {scope store} :
    batch.storage = .remote scope store →
    store.get (Storage.fullKey scope candidate) = .ok (some value) →
    Supplies batch env key candidate value

variable {batch : Batch} {env : Reader} {record : Record} {key candidate value : String}

theorem supplies_of_retrieve (hkind : batch.storage.kind ≠ .plain)
    (h : batch.storage.retrieve candidate = .ok (some value)) :
    batch.Supplies env key candidate value := by
  cases hs : batch.storage with
  | plain scope => simp [hs, Storage.kind] at hkind
  | file scope secrets =>
    rw [hs] at h
    exact .file hs (Except.ok.inj h)
  | remote scope store =>
    rw [hs] at h
    exact .remote hs h

theorem Offers.supplies (hkind : batch.storage.kind ≠ .plain)
    (h : batch.Offers env key candidate (some value)) : batch.Supplies env key candidate value := by
  generalize hfound : some value = found at h
  cases h with
  | environment he =>
    cases hfound
    exact .environment he
  | sibling _ hc hres =>
    cases hfound
    exact .sibling hc hres
  | storage _ _ hanswer =>
    obtain ⟨rfl, _⟩ := nonEmpty_eq_some_iff.mp hfound.symm
    exact supplies_of_retrieve hkind hanswer

-- Where the placeholder stands in the segments, the value has what a candidate of it stands for.
def FillsIn (batch : Batch) (env : Reader) (key : String) (left right : List Segment)
    (whole : List Char) (value : String) : Prop :=
  ∃ head filled tail, value = head ++ (filled ++ tail) ∧
    Fills (batch.Offers env key) left head ∧
    (∃ c ∈ candidates whole, batch.Supplies env key c filled) ∧
    Fills (batch.Offers env key) right tail

theorem fillsIn_of_fills {left right : List Segment} {whole : List Char}
    (hkind : batch.storage.kind ≠ .plain)
    (h : Fills (batch.Offers env key) (left ++ .reference whole :: right) value) :
    batch.FillsIn env key left right whole value := by
  obtain ⟨head, _, rfl, hleft, pieces, rfl, hpieces⟩ := h.exists_append
  cases hpieces with
  | @cons _ filled _ pieces hfilled hright =>
    refine ⟨head, filled, String.join pieces, by rw [String.join_cons], hleft, ?_, _, rfl, hright⟩
    cases hfilled with
    | @reference _ before c after _ hsplit _ hc =>
      have hmem : c ∈ candidates whole := by simp [hsplit]
      exact ⟨c, hmem, hc.supplies hkind⟩

-- An opening is taken for text, be it within one literal or not, just where there is a line feed
-- between it and the first `}`. All others belong to placeholders. What stands for these in a value
-- that is made over a storage with secrets is the value of one of their candidates, never the
-- placeholder as it is written.
theorem resolveRecord_fills_closed {σ : Type} [Variables σ] (batch : Batch) (env : σ)
    (record : Record) :
    let reader := Variables.value? env
    let template := record.template.toList
    let parts := segments template
    (∀ text, .literal text ∈ parts → ∀ before inner after, Closed text before inner after →
      '\n' ∈ inner) ∧
    ∀ before inner after, Closed template before inner after →
      (inLiteral parts before.length ↔ '\n' ∈ inner) ∧
      ('\n' ∉ inner → ∃ left right whole, ClosedWithin parts left right whole before inner after ∧
        (batch.storage.kind ≠ .plain → ∀ value,
          (batch.resolveRecord reader record).outcome = .ok value →
          batch.FillsIn reader record.key left right whole value)) := by
  intro reader template parts
  refine ⟨fun text hm before inner after => lineFeed_mem_of_literal hm, ?_⟩
  intro before inner after hclosed
  refine ⟨inLiteral_segments_iff hclosed, ?_⟩
  intro hfeed
  have hreads : Reads template parts := reads_segments template
  have hplace : inLiteral parts before.length = false := by
    rwa [← Bool.not_eq_true, inLiteral_segments_iff hclosed]
  rw [← hreads.render_eq] at hclosed
  obtain ⟨left, right, whole, hwithin⟩ := exists_closedWithin hclosed hreads.isInner hplace
  refine ⟨left, right, whole, hwithin, ?_⟩
  intro hkind value hvalue
  have hfills : Fills (batch.Offers reader record.key) parts value :=
    (resolveRecord_composes batch env record value).left hvalue
  rw [hwithin.parts_eq] at hfills
  exact fillsIn_of_fills hkind hfills

-- The first opening is taken for text, the second one is filled.
theorem resolveRecord_fills_closed_behind_text :
    let record : Record := ⟨"URL", "#\x7b\nX\x7d#\x7b A || B \x7d"⟩
    let batch := ofEntries (.file "app." (.ofList [("app.B", "b")])) []
    let reader := Variables.value? (MemoryVariables.ofList [])
    let parts := segments record.template.toList
    let text := "#\x7b\nX\x7d".toList
    let inner := " A || B ".toList
    let value := "#\x7b\nX\x7db"
    .literal text ∈ parts ∧ Closed text [] "\nX".toList [] ∧ '\n' ∈ "\nX".toList ∧
      Closed record.template.toList text inner [] ∧ '\n' ∉ inner ∧
      (batch.resolveRecord reader record).outcome = .ok value ∧
      ∃ left right whole, ClosedWithin parts left right whole text inner [] ∧
        batch.FillsIn reader record.key left right whole value := by
  intro record batch reader parts text inner value
  obtain ⟨hliteral, hclosed⟩ := resolveRecord_fills_closed batch (MemoryVariables.ofList []) record
  have htext : .literal text ∈ parts := by decide +kernel
  have hfirst : Closed text [] "\nX".toList [] := ⟨by decide +kernel, by decide +kernel⟩
  have hsecond : Closed record.template.toList text inner [] :=
    ⟨by decide +kernel, by decide +kernel⟩
  have hfeed : '\n' ∉ inner := by decide +kernel
  have hvalue : (batch.resolveRecord reader record).outcome = .ok value := by decide +kernel
  obtain ⟨left, right, whole, hwithin, hfills⟩ := (hclosed text inner [] hsecond).right hfeed
  exact ⟨htext, hfirst, hliteral text htext [] _ [] hfirst, hsecond, hfeed, hvalue, left, right,
    whole, hwithin, hfills (by decide) value hvalue⟩

-- A placeholder that is closed on the next line comes out as it is written, though the storage has
-- a value for its name.
theorem resolveRecord_copies_closed :
    let record : Record := ⟨"URL", "db:#\x7b\nKEY\x7d"⟩
    let batch := ofEntries (.file "" (.ofList [("KEY", "s3cret")])) []
    let template := record.template.toList
    Closed template "db:".toList "\nKEY".toList [] ∧ segments template = [.literal template] ∧
      candidates "\nKEY".toList = ["KEY"] ∧
      batch.storage.retrieve "KEY" = .ok (some "s3cret") ∧
      (batch.resolveRecord (Variables.value? (MemoryVariables.ofList [])) record).outcome =
        .ok record.template := by
  intro record batch template
  exact ⟨⟨by decide +kernel, by decide +kernel⟩, by decide +kernel, by decide +kernel,
    by decide +kernel, by decide +kernel⟩

end Batch

end EnvProvision
