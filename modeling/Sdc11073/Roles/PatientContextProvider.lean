import Sdc11073.Namespaces.Text

/-!
# The patient context provider

The role provider that serves `SetContextState` for the patient context. At device initialisation it
looks for the mdib's patient context descriptor (`init_operations`: it keeps it only when there is
exactly one), claims every operation descriptor that targets it (`make_operation_instance`), and
adds one `opSetPatCtx` operation when none did (`make_missing_operations`).

The operation objects come from code not under src/ (`_mk_operation_from_operation_descriptor` and
the class `operation_cls_getter` returns); they are parameters `mk` and `opCls`.

* `initOperations_init` : which entity is kept;
* `makeOperationInstance_entity`, `makeOperationInstance_ops` : one descriptor keeps the entity and
  records what it makes; `makeOperationInstances_entity`, `makeOperationInstances_ops`,
  `makeOperationInstances_fst` : so does a whole run, which makes the operations of the descriptors
  that target the entity;
* `provideOperations_eq` : what the provider contributes at initialisation;
  `provideOperations_of_single` : with one patient context descriptor, the operations made for the
  descriptors that target it, or else the one it makes; `provideOperations_eq_nil` : with none or
  several, nothing; `provideOperations_perm` : the order of the mdib's entities and descriptors orders
  only the operations.
-/

namespace Sdc11073

set_option autoImplicit false

/-- An mdib entity as the provider reads it: its handle and node type. -/
structure Entity where
  handle : String
  nodeType : QName
  deriving DecidableEq, Repr

/-- An operation descriptor as the provider reads it: its handle and `OperationTarget`. -/
structure OperationDescriptor where
  handle : String
  operationTarget : String
  deriving DecidableEq, Repr

/-- The state of a `PatientContextProvider`: `_patient_context_entity` and
`_set_patient_context_operations`. -/
structure PatientContextProvider (Op : Type) where
  patientContextEntity : Option Entity
  setPatientContextOperations : List Op

namespace PatientContextProvider

variable {Op : Type} (patientContextDescriptor : QName) (mk : OperationDescriptor → Op)
  (opCls : String → String → Op)

/-- `__init__`: no entity, no operations. -/
def init : PatientContextProvider Op := ⟨none, []⟩

/-- `init_operations(sco)`, `entities` the mdib's: the patient context entity, when
`by_node_type(pm_names.PatientContextDescriptor)` finds exactly one. -/
def initOperations (p : PatientContextProvider Op) (entities : List Entity) : PatientContextProvider Op :=
  match entities.filter (·.nodeType = patientContextDescriptor) with
  | [e] => { p with patientContextEntity := some e }
  | _ => p

/-- `make_operation_instance(operation_descriptor_container, operation_cls_getter)`: the operation
made, if any, and the provider after. -/
def makeOperationInstance (p : PatientContextProvider Op) (d : OperationDescriptor) :
    Option Op × PatientContextProvider Op :=
  match p.patientContextEntity with
  | some e =>
    if d.operationTarget = e.handle then
      (some (mk d), { p with setPatientContextOperations := p.setPatientContextOperations ++ [mk d] })
    else (none, p)
  | none => (none, p)

/-- `make_missing_operations(sco)`; `opCls handle target` builds the `SetContextState` operation. -/
def makeMissingOperations (p : PatientContextProvider Op) : List Op :=
  match p.patientContextEntity with
  | some e => if p.setPatientContextOperations.isEmpty then [opCls "opSetPatCtx" e.handle] else []
  | none => []

/-- Modelled from the spec: the loop of the device initialisation (§4.6), not under src/, that calls
`make_operation_instance` on each operation descriptor in turn: the operations made, and the provider
after. -/
def makeOperationInstances : PatientContextProvider Op → List OperationDescriptor → List Op × PatientContextProvider Op
  | p, [] => ([], p)
  | p, d :: ds =>
    let r := p.makeOperationInstance mk d
    let rs := makeOperationInstances r.2 ds
    (r.1.toList ++ rs.1, rs.2)

/-- Modelled from the spec: the device initialisation that drives role providers (§4.6), not under
src/. `init_operations`, then `make_operation_instance` for every operation descriptor of the mdib,
then `make_missing_operations`; the provider contributes the operations made and the missing ones. -/
def provideOperations (entities : List Entity) (descriptors : List OperationDescriptor) : List Op :=
  let p := (init : PatientContextProvider Op).initOperations patientContextDescriptor entities
  let r := makeOperationInstances mk p descriptors
  r.1 ++ makeMissingOperations opCls r.2

/-! ## One step -/

theorem initOperations_init (entities : List Entity) :
    (init : PatientContextProvider Op).initOperations patientContextDescriptor entities =
      ⟨match entities.filter (·.nodeType = patientContextDescriptor) with
        | [e] => some e
        | _ => none, []⟩ := by
  unfold initOperations
  split <;> rfl

/-- A step keeps the entity. -/
@[simp] theorem makeOperationInstance_entity (p : PatientContextProvider Op) (d : OperationDescriptor) :
    (p.makeOperationInstance mk d).2.patientContextEntity = p.patientContextEntity := by
  unfold makeOperationInstance
  split
  · split <;> rfl
  · rfl

/-- A step records exactly the operation it returns. -/
theorem makeOperationInstance_ops (p : PatientContextProvider Op) (d : OperationDescriptor) :
    (p.makeOperationInstance mk d).2.setPatientContextOperations =
      p.setPatientContextOperations ++ (p.makeOperationInstance mk d).1.toList := by
  unfold makeOperationInstance
  split
  · split <;> simp
  · simp

/-! ## A run -/

@[simp] theorem makeOperationInstances_entity (p : PatientContextProvider Op) (ds : List OperationDescriptor) :
    (makeOperationInstances mk p ds).2.patientContextEntity = p.patientContextEntity := by
  induction ds generalizing p with
  | nil => rfl
  | cons d ds ih => simp [makeOperationInstances, ih]

/-- A run records every operation it makes. -/
theorem makeOperationInstances_ops (p : PatientContextProvider Op) (ds : List OperationDescriptor) :
    (makeOperationInstances mk p ds).2.setPatientContextOperations =
      p.setPatientContextOperations ++ (makeOperationInstances mk p ds).1 := by
  induction ds generalizing p with
  | nil => simp [makeOperationInstances]
  | cons d ds ih => simp [makeOperationInstances, ih, makeOperationInstance_ops]

/-- The operations a run makes are those of the descriptors that target the entity. -/
theorem makeOperationInstances_fst (p : PatientContextProvider Op) (ds : List OperationDescriptor) :
    (makeOperationInstances mk p ds).1 = match p.patientContextEntity with
      | some e => (ds.filter (·.operationTarget = e.handle)).map mk
      | none => [] := by
  induction ds generalizing p with
  | nil => cases p.patientContextEntity <;> rfl
  | cons d ds ih =>
    simp only [makeOperationInstances, ih, makeOperationInstance_entity]
    cases he : p.patientContextEntity with
    | none => simp [makeOperationInstance, he]
    | some e => by_cases hd : d.operationTarget = e.handle <;> simp [makeOperationInstance, he, hd]

/-! ## Device initialisation -/

theorem provideOperations_eq (entities : List Entity) (descriptors : List OperationDescriptor) :
    provideOperations patientContextDescriptor mk opCls entities descriptors =
      match entities.filter (·.nodeType = patientContextDescriptor) with
      | [e] =>
        if descriptors.filter (·.operationTarget = e.handle) = [] then [opCls "opSetPatCtx" e.handle]
        else (descriptors.filter (·.operationTarget = e.handle)).map mk
      | _ => [] := by
  simp only [provideOperations, initOperations_init, makeMissingOperations, makeOperationInstances_entity,
    makeOperationInstances_ops, makeOperationInstances_fst]
  generalize entities.filter (·.nodeType = patientContextDescriptor) = es
  rcases es with _ | ⟨e, _ | ⟨e', rest⟩⟩
  · rfl
  · by_cases hd : descriptors.filter (·.operationTarget = e.handle) = [] <;> simp [hd]
  · rfl

/-- With exactly one patient context descriptor, the provider contributes what
`make_operation_instance` makes for the descriptors that target it, in the mdib's order, or, when
none does, the one `opSetPatCtx` operation on it. -/
theorem provideOperations_of_single {entities : List Entity} {e : Entity}
    (he : entities.filter (·.nodeType = patientContextDescriptor) = [e])
    (descriptors : List OperationDescriptor) :
    provideOperations patientContextDescriptor mk opCls entities descriptors =
      if descriptors.filter (·.operationTarget = e.handle) = [] then [opCls "opSetPatCtx" e.handle]
      else (descriptors.filter (·.operationTarget = e.handle)).map mk := by
  rw [provideOperations_eq, he]

/-- One descriptor targets the patient context entity and one another entity. -/
theorem provideOperations_of_single_targeting :
    [(⟨"patient", ⟨some "urn:pm", "PatientContextDescriptor"⟩⟩ : Entity)].filter
        (·.nodeType = ⟨some "urn:pm", "PatientContextDescriptor"⟩) =
      [⟨"patient", ⟨some "urn:pm", "PatientContextDescriptor"⟩⟩] ∧
    provideOperations ⟨some "urn:pm", "PatientContextDescriptor"⟩ id OperationDescriptor.mk
        [⟨"patient", ⟨some "urn:pm", "PatientContextDescriptor"⟩⟩] [⟨"op1", "patient"⟩, ⟨"op2", "other"⟩] =
      if [(⟨"op1", "patient"⟩ : OperationDescriptor), ⟨"op2", "other"⟩].filter
          (·.operationTarget = "patient") = [] then [⟨"opSetPatCtx", "patient"⟩]
      else ([(⟨"op1", "patient"⟩ : OperationDescriptor), ⟨"op2", "other"⟩].filter
          (·.operationTarget = "patient")).map id := by
  have he : [(⟨"patient", ⟨some "urn:pm", "PatientContextDescriptor"⟩⟩ : Entity)].filter
      (·.nodeType = ⟨some "urn:pm", "PatientContextDescriptor"⟩) =
      [⟨"patient", ⟨some "urn:pm", "PatientContextDescriptor"⟩⟩] := by decide
  exact ⟨he, provideOperations_of_single _ id OperationDescriptor.mk he _⟩

example : provideOperations ⟨some "urn:pm", "PatientContextDescriptor"⟩ id OperationDescriptor.mk
    [⟨"patient", ⟨some "urn:pm", "PatientContextDescriptor"⟩⟩] [⟨"op1", "patient"⟩, ⟨"op2", "other"⟩] =
      [⟨"op1", "patient"⟩] := by decide

/-- With no patient context descriptor, or several, the provider contributes nothing. -/
theorem provideOperations_eq_nil {entities : List Entity}
    (he : ∀ e, entities.filter (·.nodeType = patientContextDescriptor) ≠ [e])
    (descriptors : List OperationDescriptor) :
    provideOperations patientContextDescriptor mk opCls entities descriptors = [] := by
  rw [provideOperations_eq]
  split
  · exact absurd ‹_› (he _)
  · rfl

/-- Two patient context descriptors: nothing, even for an operation that targets one of them. -/
theorem provideOperations_eq_nil_two :
    (∀ e : Entity, [(⟨"p1", ⟨some "urn:pm", "PatientContextDescriptor"⟩⟩ : Entity),
        ⟨"p2", ⟨some "urn:pm", "PatientContextDescriptor"⟩⟩].filter
        (·.nodeType = ⟨some "urn:pm", "PatientContextDescriptor"⟩) ≠ [e]) ∧
    provideOperations ⟨some "urn:pm", "PatientContextDescriptor"⟩ id OperationDescriptor.mk
      [⟨"p1", ⟨some "urn:pm", "PatientContextDescriptor"⟩⟩, ⟨"p2", ⟨some "urn:pm", "PatientContextDescriptor"⟩⟩]
      [⟨"op", "p1"⟩] = [] := by
  have he : ∀ e : Entity, [(⟨"p1", ⟨some "urn:pm", "PatientContextDescriptor"⟩⟩ : Entity),
      ⟨"p2", ⟨some "urn:pm", "PatientContextDescriptor"⟩⟩].filter
      (·.nodeType = ⟨some "urn:pm", "PatientContextDescriptor"⟩) ≠ [e] := by
    intro e h
    have := congrArg List.length h
    simp at this
  exact ⟨he, provideOperations_eq_nil _ id OperationDescriptor.mk he _⟩

/-- The provider's contribution does not depend on the order in which the mdib lists its entities,
and the order of the operation descriptors orders only the operations it makes. -/
theorem provideOperations_perm {entities entities' : List Entity} (he : entities.Perm entities')
    {descriptors descriptors' : List OperationDescriptor} (hd : descriptors.Perm descriptors') :
    (provideOperations patientContextDescriptor mk opCls entities descriptors).Perm
      (provideOperations patientContextDescriptor mk opCls entities' descriptors') := by
  have hsingle : ∀ e, entities.filter (·.nodeType = patientContextDescriptor) = [e] ↔
      entities'.filter (·.nodeType = patientContextDescriptor) = [e] := fun e =>
    ⟨fun h => List.perm_singleton.mp (h ▸ (he.filter _).symm),
      fun h => List.perm_singleton.mp (h ▸ he.filter _)⟩
  rw [provideOperations_eq, provideOperations_eq]
  by_cases hs : ∃ e, entities.filter (·.nodeType = patientContextDescriptor) = [e]
  · obtain ⟨e, hs⟩ := hs
    rw [hs, (hsingle e).mp hs]
    have hf := hd.filter fun d => decide (d.operationTarget = e.handle)
    dsimp only
    by_cases h0 : descriptors.filter (·.operationTarget = e.handle) = []
    · rw [if_pos h0, if_pos (List.nil_perm.mp (h0 ▸ hf))]
    · have h0' : descriptors'.filter (·.operationTarget = e.handle) ≠ [] := fun h =>
        h0 (List.Perm.eq_nil (h ▸ hf))
      rw [if_neg h0, if_neg h0']
      exact hf.map mk
  · split
    · exact absurd ⟨_, ‹_›⟩ hs
    · split
      · exact absurd ⟨_, (hsingle _).mpr ‹_›⟩ hs
      · exact .refl _

/-- Listing the patient context entity after another entity, and the descriptors the other way round. -/
theorem provideOperations_perm_swap :
    [(⟨"mds", ⟨some "urn:pm", "MdsDescriptor"⟩⟩ : Entity), ⟨"patient", ⟨some "urn:pm", "PatientContextDescriptor"⟩⟩].Perm
      [⟨"patient", ⟨some "urn:pm", "PatientContextDescriptor"⟩⟩, ⟨"mds", ⟨some "urn:pm", "MdsDescriptor"⟩⟩] ∧
    [(⟨"op1", "patient"⟩ : OperationDescriptor), ⟨"op2", "patient"⟩].Perm [⟨"op2", "patient"⟩, ⟨"op1", "patient"⟩] ∧
    (provideOperations ⟨some "urn:pm", "PatientContextDescriptor"⟩ id OperationDescriptor.mk
        [⟨"mds", ⟨some "urn:pm", "MdsDescriptor"⟩⟩, ⟨"patient", ⟨some "urn:pm", "PatientContextDescriptor"⟩⟩]
        [⟨"op1", "patient"⟩, ⟨"op2", "patient"⟩]).Perm
      (provideOperations ⟨some "urn:pm", "PatientContextDescriptor"⟩ id OperationDescriptor.mk
        [⟨"patient", ⟨some "urn:pm", "PatientContextDescriptor"⟩⟩, ⟨"mds", ⟨some "urn:pm", "MdsDescriptor"⟩⟩]
        [⟨"op2", "patient"⟩, ⟨"op1", "patient"⟩]) :=
  ⟨.swap _ _ _, .swap _ _ _, provideOperations_perm _ id OperationDescriptor.mk (.swap _ _ _) (.swap _ _ _)⟩

end PatientContextProvider

end Sdc11073
