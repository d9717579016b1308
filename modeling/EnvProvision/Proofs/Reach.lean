import EnvProvision.Proofs.Descent
import EnvProvision.Proofs.Readdressing

namespace EnvProvision

namespace Batch

-- With the name of a record, these names include all that the record mentions.
def ClosedUnder (batch : Batch) (names : String → Prop) : Prop :=
  ∀ name record, names name → batch.get? name = some record → ∀ other ∈ record.mentions, names other

-- The names that the record mentions, directly or through records of the batch.
inductive Reaches (batch : Batch) (record : Record) : String → Prop
  | mentioned {name} : name ∈ record.mentions → Reaches batch record name
  | through {name other reached} :
    Reaches batch record name → batch.get? name = some reached → other ∈ reached.mentions →
    Reaches batch record other

-- The two have the same records, variables and answers of their storages under these names.
structure AgreesOn (names : String → Prop) (batch : Batch) (env : Reader) (batch' : Batch)
    (env' : Reader) : Prop where
  scope : batch.storage.scope = batch'.storage.scope
  get? : ∀ name, names name → batch.get? name = batch'.get? name
  environment : ∀ name, names name → env name = env' name
  retrieve : ∀ name, names name → batch.storage.retrieve name = batch'.storage.retrieve name

variable {batch batch' : Batch} {env env' : Reader} {names : String → Prop} {record : Record}

theorem closedUnder_iff :
    batch.ClosedUnder names ↔
      ∀ record ∈ batch.records, names record.key → ∀ other ∈ record.mentions, names other := by
  constructor
  case mp =>
    intro h record hm hkey
    exact h record.key record hkey (mem_records_iff.mp hm)
  case mpr =>
    intro h name record hname hget
    obtain rfl := key_of_get? hget
    exact h record (mem_records_iff.mpr hget) hname

theorem closedUnder_all (batch : Batch) : batch.ClosedUnder fun _ => True :=
  fun _ _ _ _ _ _ => trivial

theorem closedUnder_reaches (batch : Batch) (record : Record) :
    batch.ClosedUnder (batch.Reaches record) := by
  intro name reached hname hget other hother
  exact .through hname hget hother

-- The names that a record reaches are the fewest that it can do with.
theorem ClosedUnder.of_reaches {name : String} (h : batch.ClosedUnder names)
    (hmentions : ∀ name ∈ record.mentions, names name) (hreaches : batch.Reaches record name) :
    names name := by
  induction hreaches with
  | mentioned hm => exact hmentions _ hm
  | through _ hget hm ih => exact h _ _ ih hget _ hm

theorem AgreesOn.alikeAt {name : String} (h : AgreesOn names batch env batch' env')
    (hname : names name) : batch.AlikeAt id env batch' env' name where
  environment := h.environment name hname
  get? := h.get? name hname
  retrieve := h.retrieve name hname
  fullKey := by rw [h.scope, id]

-- The siblings that a resolution goes on to mention none but names of the closed set, so that what
-- holds for the candidates of the record holds for theirs.
theorem ClosedUnder.resolveWithin_eq {rename : String → String} (hclosed : batch.ClosedUnder names)
    (halike : ∀ name, names name → batch.AlikeAt rename env batch' env' name) (room : Nat)
    (chain : List String) (hmentions : ∀ name ∈ record.mentions, names name) :
    (batch'.resolveWithin env' room chain record).mapEvents
        (.readdress batch.storage.kind rename) =
      batch.resolveWithin env room chain record := by
  induction room generalizing chain record with
  | zero =>
    unfold resolveWithin
    split <;> rfl
  | succ room ih =>
    unfold resolveWithin
    split
    case isTrue => rfl
    case isFalse =>
      refine ((readdress_lifting ..).expand (fun _ => rfl) _).trans ?_
      apply Template.expand_congr
      intro name hreaches
      have hname : names name := hmentions name hreaches.mem_mentions
      apply (halike name hname).find_eq
      intro sibling hget
      exact ih _ (hclosed name sibling hname hget)

-- A resolution tells its own kind of backend in all of its events.
theorem resolveWithin_readdress (batch : Batch) (env : Reader) (room : Nat) (chain : List String)
    (record : Record) :
    (batch.resolveWithin env room chain record).mapEvents (.readdress batch.storage.kind id) =
      batch.resolveWithin env room chain record :=
  batch.closedUnder_all.resolveWithin_eq (fun name _ => .refl batch env name) room chain
    fun _ _ => trivial

-- Two worlds that agree on all names that a record reaches resolve it alike, to the same value or
-- error, with the same lookups. What they hold under other names makes no difference.
theorem resolveRecord_eq_of_agreesOn {σ σ' : Type} [Variables σ] [Variables σ']
    (batch batch' : Batch) (env : σ) (env' : σ') (record : Record)
    (h : AgreesOn (batch.Reaches record) batch (Variables.value? env) batch'
      (Variables.value? env')) :
    let resolved := batch.resolveRecord (Variables.value? env) record
    let resolved' := batch'.resolveRecord (Variables.value? env') record
    resolved.outcome = resolved'.outcome ∧
      Traced.lookups batch.storage.kind resolved.events =
        Traced.lookups batch'.storage.kind resolved'.events ∧
      resolved.events = resolved'.events.map (.readdress batch.storage.kind id) := by
  intro resolved resolved'
  have heq : resolved'.mapEvents (.readdress batch.storage.kind id) = resolved :=
    (closedUnder_reaches batch record).resolveWithin_eq (fun name => h.alikeAt) depthLimit []
      fun name => .mentioned
  have hself : resolved'.mapEvents (.readdress batch'.storage.kind id) = resolved' :=
    batch'.resolveWithin_readdress (Variables.value? env') depthLimit [] record
  have houtcome := congrArg Traced.outcome heq.symm
  have hevents : resolved.events = resolved'.events.map (.readdress batch.storage.kind id) :=
    congrArg Traced.events heq.symm
  refine ⟨houtcome, ?_, hevents⟩
  rw [hevents, Traced.lookups_readdress (congrArg Traced.events hself), List.map_id]

-- What `TOP` reaches has a secret in front of a cycle. Beside it one world has an unreadable
-- variable and a record that refers to itself through another, and the other one has a backend that
-- fails.
theorem resolveRecord_eq_of_agreesOn_cyclic :
    let vault : Store := ⟨fun key =>
      if key = "app.S" then .ok (some "s")
      else if key = "app.Z" then .error (.backend "vault" key "sealed" none)
      else .ok none⟩
    let top : Record := ⟨"TOP", "#\x7bS\x7d #\x7bA\x7d"⟩
    let batch := ofEntries (.remote "app." vault) [("A", "#\x7bB\x7d"), ("B", "#\x7bA\x7d")]
    let batch' := ofEntries (.file "app." (.ofList [("app.Z", "z"), ("app.S", "s")]))
      [("X", "#\x7bY\x7d"), ("B", "#\x7bA\x7d"), ("Y", "#\x7bX\x7d"), ("A", "#\x7bB\x7d")]
    let reader := Variables.value? (MemoryVariables.ofList [("B", "")])
    let reader' := Variables.value? (ProcessVariables.ofList [([0x59], [0xff]), ([0x42], [])])
    let resolved := batch.resolveRecord reader top
    let resolved' := batch'.resolveRecord reader' top
    AgreesOn (batch.Reaches top) batch reader batch' reader' ∧
      resolved.outcome = .error (.cyclicReference ["TOP", "A", "B", "A"]) ∧
      resolved.outcome = resolved'.outcome ∧
      Traced.lookups .remote resolved.events = Traced.lookups .file resolved'.events := by
  intro vault top batch batch' reader reader' resolved resolved'
  have hclosed : batch.ClosedUnder (· ∈ ["S", "A", "B"]) := closedUnder_iff.mpr (by decide +kernel)
  have hreaches (name : String) (h : batch.Reaches top name) : name ∈ ["S", "A", "B"] :=
    hclosed.of_reaches (by decide +kernel) h
  have hagrees : AgreesOn (batch.Reaches top) batch reader batch' reader' := by
    refine ⟨rfl, fun name h => ?_, fun name h => ?_, fun name h => ?_⟩
    all_goals
      have hname := hreaches name h
      simp only [List.mem_cons, List.not_mem_nil, or_false] at hname
      obtain rfl | rfl | rfl := hname <;> decide +kernel
  have h := resolveRecord_eq_of_agreesOn batch batch' (MemoryVariables.ofList [("B", "")])
    (ProcessVariables.ofList [([0x59], [0xff]), ([0x42], [])]) top hagrees
  exact ⟨hagrees, by decide +kernel, h.left, h.right.left⟩

end Batch

end EnvProvision
