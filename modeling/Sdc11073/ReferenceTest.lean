import Sdc11073.PyDict
import Mathlib.Data.List.Nodup
import Mathlib.Data.String.Basic

/-!
# The reference test

`test_reference.py` runs a provider with a background activity that writes a metric and an alert
condition state (`DeviceActivity.run`), and a consumer that counts the state updates it is notified
of and calls a SetString and a SetValue operation (`_runtest_client_connects`). The network, the
mdib and the clock are outside the model: the activity's transactions are the reports they commit,
the mdib's `get_state` taken to succeed, the consumer's notifications are a list of `{handle: state}`
dicts, and an operation call resolves to an invocation state or times out.

* `DeviceActivity.run` : the search of the sorted descriptors, the setup transaction over the two
  operation targets, and the activity's `while` loop (`loop`), stopped at the check of `running` that
  first reads false; `findHandle_sortByHandle` : the sort does not change which descriptor is found;
  `loop_reports` : what any run of the loop commits, pass by pass; `run_eq` : the setup's
  `AttributeError` when an operation descriptor is missing, otherwise the setup transaction, then the
  metric values `0, 1, ...` and the alert presence toggled each pass, one pass per two checks;
* `onUpdates` : the consumer's callbacks; `get?_foldl_onUpdates` : after any notifications each handle
  holds its states in order;
* `testStateUpdates` : test steps 7 and 8; `testStateUpdates_foldl` : their verdict asks only whether
  an update came at all;
* `testSetstringOperation`, `testSetvalueOperation` : test steps 9 and 10; both come to
  `operationVerdict` (`_eq`), step 9 passing a call that finishes, step 10 one that does not time out,
  whatever state it ends in;
* `runtestClientConnects` : the final assertions; `runtestClientConnects_eq_ok_iff` : what the test
  checks.
-/

namespace Sdc11073

set_option autoImplicit false

namespace ReferenceTest

/-! ## `DeviceActivity` -/

/-- A descriptor of the mdib as `DeviceActivity.run` reads it: its `Handle`, and its `OperationTarget`,
`none` for a descriptor that has no such attribute. -/
structure Descriptor where
  handle : String
  operationTarget : Option String
  deriving DecidableEq, Repr

/-- The `AttributeError` of reading `OperationTarget`: of `None`, the descriptor not found, or of a
descriptor that has no such attribute. -/
inductive AttributeError
  | noneType
  | noOperationTarget (handle : String)
  deriving DecidableEq, Repr

/-- A report one of the activity's transactions commits: the setup transaction over the metric states
of the two operation targets, each given a metric value where it has none; the metric state's value;
or the alert condition state's `Presence`. -/
inductive Report
  | setup (valueTarget stringTarget : String)
  | metric (handle : String) (value : Int)
  | alert (handle : String) (presence : Bool)
  deriving DecidableEq, Repr

/-- `descs.sort(key=lambda x: x.Handle)`: a stable sort by handle. -/
def sortByHandle (descs : List Descriptor) : List Descriptor :=
  descs.mergeSort fun a b => decide (a.handle ≤ b.handle)

/-- What the `for oneContainer in descs` loop leaves in one of its four variables, the one it assigns
on handle `h`: the last descriptor with that handle, `None` when there is none. -/
def findHandle (descs : List Descriptor) (h : String) : Option Descriptor :=
  descs.foldl (fun found c => if c.handle = h then some c else found) none

/-- `operation.OperationTarget`, as the setup transaction reads it. -/
def operationTargetOf : Option Descriptor → Except AttributeError String
  | some ⟨_, some t⟩ => .ok t
  | some ⟨h, none⟩ => .error (.noOperationTarget h)
  | none => .error .noneType

/-- What `DeviceActivity.run` keeps across the passes of its loop: `currentValue`, the alert
condition state's `Presence`, and the reports committed so far. -/
structure DeviceActivity where
  currentValue : Int
  presence : Bool
  reports : List Report
  deriving Repr

namespace DeviceActivity

section Loop

variable (metric alertCondition : Option String)

/-- One pass of the `while True` body, `metric` and `alertCondition` the handles of the descriptors
found (`None` where the mdib has none): the metric set to `currentValue`, which then counts on, and
the alert condition's presence toggled, each in its own transaction. -/
def step (a : DeviceActivity) : DeviceActivity :=
  let a := match metric with
    | some h =>
      { a with currentValue := a.currentValue + 1, reports := a.reports ++ [.metric h a.currentValue] }
    | none => a
  match alertCondition with
  | some h => { a with presence := !a.presence, reports := a.reports ++ [.alert h !a.presence] }
  | none => a

/-- The loop, `running` first read false at check `stop`: a pass checks it twice, before each of its
one-second sleeps, so the pass in which that check falls is the last. -/
def loop : Nat → DeviceActivity → DeviceActivity
  | 0, a | 1, a => step metric alertCondition a
  | n + 2, a => loop n (step metric alertCondition a)

end Loop

/-- `DeviceActivity.run`, `descs` the mdib's descriptors, `presence` the alert condition's presence at
the start, and `running` first read false at check `stop`: the `AttributeError` of the setup
transaction, raised before the `try` and committing nothing, or the reports the run commits. -/
def run (descs : List Descriptor) (presence : Bool) (stop : Nat) : Except AttributeError (List Report) := do
  let descs := sortByHandle descs
  let metric := findHandle descs "numeric.ch1.vmd0"
  let alertCondition := findHandle descs "ac0.mds0"
  let valueOperation := findHandle descs "numeric.ch0.vmd1_sco_0"
  let stringOperation := findHandle descs "enumstring.ch0.vmd1_sco_0"
  let valueTarget ← operationTargetOf valueOperation
  let stringTarget ← operationTargetOf stringOperation
  let a := loop (metric.map (·.handle)) (alertCondition.map (·.handle)) stop ⟨0, presence, []⟩
  pure (.setup valueTarget stringTarget :: a.reports)

/-! ### The descriptors found -/

theorem findHandle_eq_getLast? (descs : List Descriptor) (h : String) :
    findHandle descs h = (descs.filter (·.handle = h)).getLast? := by
  induction descs using List.reverseRecOn with
  | nil => rfl
  | append_singleton descs d ih =>
    rw [findHandle, List.foldl_append, ← findHandle, ih, List.filter_append]
    by_cases hd : d.handle = h <;> simp [hd]

/-- The sort keeps the descriptors of one handle in their order. -/
theorem filter_sortByHandle (descs : List Descriptor) (h : String) :
    (sortByHandle descs).filter (·.handle = h) = descs.filter (·.handle = h) := by
  have hsub : (descs.filter (·.handle = h)).Sublist (sortByHandle descs) := by
    refine List.sublist_mergeSort (fun a b c hab hbc => ?_) (fun a b => ?_) ?_ (List.filter_sublist _)
    · simp only [decide_eq_true_eq] at *
      exact le_trans hab hbc
    · simpa using le_total a.handle b.handle
    · refine List.pairwise_of_forall_mem_list fun a ha b hb => ?_
      simp only [List.mem_filter, decide_eq_true_eq] at ha hb
      simp [ha.2, hb.2]
  have hperm := (List.mergeSort_perm descs fun a b => decide (a.handle ≤ b.handle)).filter
    fun d : Descriptor => decide (d.handle = h)
  have hsub' := hsub.filter fun d : Descriptor => decide (d.handle = h)
  simp only [List.filter_filter, Bool.and_self] at hsub'
  exact (hsub'.eq_of_length hperm.length_eq.symm).symm

/-- Sorting first does not change which descriptor the loop finds. -/
theorem findHandle_sortByHandle (descs : List Descriptor) (h : String) :
    findHandle (sortByHandle descs) h = findHandle descs h := by
  rw [findHandle_eq_getLast?, findHandle_eq_getLast?, filter_sortByHandle]

theorem map_handle_findHandle (descs : List Descriptor) (h : String) :
    (findHandle descs h).map (·.handle) = (findHandle descs h).map fun _ => h := by
  rw [findHandle_eq_getLast?]
  cases hl : (descs.filter (·.handle = h)).getLast? with
  | none => rfl
  | some d =>
    have := List.mem_filter.mp (List.mem_of_getLast?_eq_some hl)
    simpa using this.2

/-! ### The loop -/

section Loop

variable (metric alertCondition : Option String)

/-- What pass `i` after `a` commits. -/
def passReports (a : DeviceActivity) (i : Nat) : List Report :=
  (metric.map fun h => .metric h (a.currentValue + i)).toList ++
    (alertCondition.map fun h => .alert h (a.presence ^^ (i % 2 == 0))).toList

theorem step_reports (a : DeviceActivity) :
    (step metric alertCondition a).reports = a.reports ++ passReports metric alertCondition a 0 := by
  cases metric <;> cases alertCondition <;> simp [step, passReports]

theorem passReports_step (a : DeviceActivity) (i : Nat) :
    passReports metric alertCondition (step metric alertCondition a) i =
      passReports metric alertCondition a (i + 1) := by
  have hpar : (i % 2 == 0) = !((i + 1) % 2 == 0) := by
    rcases Nat.mod_two_eq_zero_or_one i with h | h <;> simp [h] <;> omega
  cases metric <;> cases alertCondition <;> simp [step, passReports, hpar] <;> omega

/-- A run commits, pass after pass, what each pass commits; there are `stop / 2 + 1` passes. -/
theorem loop_reports (stop : Nat) (a : DeviceActivity) :
    (loop metric alertCondition stop a).reports =
      a.reports ++ (List.range (stop / 2 + 1)).flatMap (passReports metric alertCondition a) := by
  induction stop using Nat.strong_induction_on generalizing a with
  | _ stop ih =>
    match stop with
    | 0 | 1 => simp [loop, step_reports, List.range_succ]
    | n + 2 =>
      have hshift : passReports metric alertCondition (step metric alertCondition a) =
          fun i => passReports metric alertCondition a (i + 1) :=
        funext (passReports_step metric alertCondition a)
      rw [loop, ih n (by omega), step_reports, hshift, show (n + 2) / 2 + 1 = n / 2 + 1 + 1 by omega,
        List.range_succ_eq_map (n / 2 + 1), List.flatMap_cons, List.flatMap_map, List.append_assoc]

/-- From `currentValue = 0`, pass `i` sets the metric to `i` and toggles the presence. -/
theorem loop_reports_start (presence : Bool) (stop : Nat) :
    (loop metric alertCondition stop ⟨0, presence, []⟩).reports =
      (List.range (stop / 2 + 1)).flatMap fun i =>
        (metric.map fun h => .metric h i).toList ++
          (alertCondition.map fun h => .alert h (presence ^^ (i % 2 == 0))).toList := by
  rw [loop_reports, List.nil_append]
  congr 1
  funext i
  simp [passReports]

end Loop

/-! ### A whole run -/

/-- The metric and the alert condition found, the operation descriptors not: the setup raises. -/
example : run [⟨"numeric.ch1.vmd0", none⟩, ⟨"ac0.mds0", none⟩] false 4 = .error .noneType := by
  simp only [run, findHandle_sortByHandle]
  rfl

end DeviceActivity

/-! ## Counting updates -/

section Updates

variable {S : Type}

/-- The body of both callbacks: `updates[k].append(v)` for each item of a notification, `updates` a
`defaultdict(list)`. -/
def onUpdates (updates : PyDict String (List S)) (byHandle : PyDict String S) : PyDict String (List S) :=
  byHandle.items.foldl (fun u e => u.insert e.1 ((u.get? e.1).getD [] ++ [e.2])) updates

/-- `onMetricUpdates(metricsbyhandle)`. -/
def onMetricUpdates (metric_updates : PyDict String (List S)) (metricsbyhandle : PyDict String S) :
    PyDict String (List S) :=
  onUpdates metric_updates metricsbyhandle

/-- `onAlertUpdates(alertsbyhandle)`. -/
def onAlertUpdates (alert_updates : PyDict String (List S)) (alertsbyhandle : PyDict String S) :
    PyDict String (List S) :=
  onUpdates alert_updates alertsbyhandle

theorem get?_foldl_append (l : List (String × S)) (hl : (l.map Prod.fst).Nodup)
    (u : PyDict String (List S)) (k : String) :
    (l.foldl (fun u e => u.insert e.1 ((u.get? e.1).getD [] ++ [e.2])) u).get? k =
      match l.find? fun e => e.1 = k with
      | some e => some ((u.get? k).getD [] ++ [e.2])
      | none => u.get? k := by
  induction l generalizing u with
  | nil => rfl
  | cons e l ih =>
    rw [List.map_cons, List.nodup_cons] at hl
    rw [List.foldl_cons, ih hl.2, List.find?_cons]
    by_cases hk : e.1 = k
    · subst hk
      have hnone : (l.find? fun e' => e'.1 = e.1) = none := List.find?_eq_none.mpr fun e' he' h => by
        have := List.mem_map_of_mem Prod.fst he'
        rw [of_decide_eq_true h] at this
        exact hl.1 this
      simp [hnone]
    · simp [hk, Ne.symm hk]

/-- A notification appends its state to each handle it names. -/
theorem get?_onUpdates (u : PyDict String (List S)) (n : PyDict String S) (k : String) :
    (onUpdates u n).get? k = match n.get? k with
      | some s => some ((u.get? k).getD [] ++ [s])
      | none => u.get? k := by
  rw [onUpdates, get?_foldl_append _ n.nodup]
  simp only [PyDict.get?]
  cases n.items.find? (fun e => e.1 = k) <;> rfl

/-- After any notifications, each handle holds the states they gave it, in order, and a handle none
of them named has no entry. -/
theorem get?_foldl_onUpdates (ns : List (PyDict String S)) (k : String) :
    (ns.foldl onUpdates PyDict.empty).get? k = match ns.filterMap (·.get? k) with
      | [] => none
      | l => some l := by
  induction ns using List.reverseRecOn with
  | nil => rfl
  | append_singleton ns n ih =>
    rw [List.foldl_append, List.foldl_cons, List.foldl_nil, get?_onUpdates, ih, List.filterMap_append]
    cases hn : n.get? k with
    | none => simp [hn]
    | some s =>
      simp only [List.filterMap_cons, List.filterMap_nil, hn]
      cases ns.filterMap (·.get? k) <;> rfl

theorem items_foldl_onUpdates_eq_nil_iff (ns : List (PyDict String S)) :
    (ns.foldl onUpdates PyDict.empty).items = [] ↔ ∀ n ∈ ns, n.items = [] := by
  have hmatch : ∀ l : List S, (match l with | [] => none | l => some l) = none ↔ l = [] := by
    intro l; cases l <;> simp
  simp only [PyDict.items_eq_nil_iff, get?_foldl_onUpdates, hmatch, List.filterMap_eq_nil_iff]
  exact ⟨fun h n hn k => h k n hn, fun h k n hn => h n hn k⟩

/-- No handle collects an empty list. -/
theorem ne_nil_of_mem_foldl_onUpdates {ns : List (PyDict String S)} {e : String × List S}
    (he : e ∈ (ns.foldl onUpdates PyDict.empty).items) : e.2 ≠ [] := by
  have h := PyDict.get?_eq_some_iff.mpr he
  rw [get?_foldl_onUpdates] at h
  split at h
  · cases h
  · exact Option.some.inj h ▸ ‹_›

end Updates

/-! ## Test steps 7 and 8 -/

/-- `sleep_timer`. -/
def sleepTimer : Nat := 11

/-- `min_updates = sleep_timer // 5 - 1`. -/
def minUpdates : Nat := sleepTimer / 5 - 1

section StateUpdates

variable {Sm Sa : Type}

/-- `_test_state_updates(mdib)` after its wait, from the updates the callbacks collected: the verdicts
of test steps 7 and 8, as `(passed, errors)`. Both branches of step 8's loop only print. -/
def testStateUpdates (metric_updates : PyDict String (List Sm)) (alert_updates : PyDict String (List Sa)) :
    List String × List String :=
  let found_error := metric_updates.items.isEmpty
  let found_error := metric_updates.items.foldl
    (fun found_error e => if e.2.length < minUpdates then true else found_error) found_error
  let passed : List String := if found_error then [] else ["### Test 7 ### passed"]
  let errors : List String := if found_error then ["### Test 7 ### failed"] else []
  let found_error := alert_updates.items.isEmpty
  let found_error := alert_updates.items.foldl
    (fun found_error e => if e.2.length < minUpdates then found_error else found_error) found_error
  if found_error then (passed, errors ++ ["### Test 8 ### failed"])
  else (passed ++ ["### Test 8 ### passed"], errors)

/-- Over what the callbacks collect, step 7's per-handle check never fires: every handle holds at
least one update, and `min_updates` is one. -/
theorem foldl_minUpdates {S : Type} (ns : List (PyDict String S)) (found_error : Bool) :
    (ns.foldl onUpdates PyDict.empty).items.foldl
      (fun found_error e => if e.2.length < minUpdates then true else found_error) found_error = found_error := by
  suffices ∀ l : List (String × List S), (∀ e ∈ l, e.2 ≠ []) → ∀ b : Bool,
      l.foldl (fun found_error e => if e.2.length < minUpdates then true else found_error) b = b from
    this _ (fun _ => ne_nil_of_mem_foldl_onUpdates) found_error
  intro l hl
  induction l with
  | nil => intro; rfl
  | cons e l ih =>
    intro b
    have he : ¬e.2.length < minUpdates := by
      simpa [minUpdates, sleepTimer, List.length_pos] using hl e (List.mem_cons_self _ _)
    rw [List.foldl_cons, if_neg he, ih fun e' he' => hl e' (List.mem_cons_of_mem _ he')]

theorem isEmpty_foldl_onUpdates {S : Type} (ns : List (PyDict String S)) :
    (ns.foldl onUpdates PyDict.empty).items.isEmpty = ns.all (·.items.isEmpty) := by
  rw [Bool.eq_iff_iff, List.isEmpty_iff, items_foldl_onUpdates_eq_nil_iff]
  simp [List.isEmpty_iff]

/-- Whatever the notifications, step 7 passes exactly when a metric notification named a handle,
and step 8 exactly when an alert notification did. -/
theorem testStateUpdates_foldl (ms : List (PyDict String Sm)) (as : List (PyDict String Sa)) :
    testStateUpdates (ms.foldl onMetricUpdates PyDict.empty) (as.foldl onAlertUpdates PyDict.empty) =
      ((if ms.all (·.items.isEmpty) then [] else ["### Test 7 ### passed"]) ++
          (if as.all (·.items.isEmpty) then [] else ["### Test 8 ### passed"]),
        (if ms.all (·.items.isEmpty) then ["### Test 7 ### failed"] else []) ++
          (if as.all (·.items.isEmpty) then ["### Test 8 ### failed"] else [])) := by
  change testStateUpdates (ms.foldl onUpdates PyDict.empty) (as.foldl onUpdates PyDict.empty) = _
  simp only [testStateUpdates, foldl_minUpdates, ite_self, List.foldl_fixed, isEmpty_foldl_onUpdates]
  cases ms.all (·.items.isEmpty) <;> cases as.all (·.items.isEmpty) <;> rfl

end StateUpdates

/-! ## Test steps 9 and 10 -/

/-- `setst_handle`. -/
def setstHandle : String := "string.ch0.vmd1_sco_0"

/-- `setval_handle`. -/
def setvalHandle : String := "numeric.ch0.vmd1_sco_0"

/-- What test steps 9 and 10 come to: failed without operations, otherwise one verdict for each
operation with the step's handle, passed where the call is `ok`. -/
def operationVerdict (operations : List String) (handle : String) (ok : Bool) (pass fail : String) :
    List String × List String :=
  if operations.length = 0 then ([], [fail])
  else if ok then (List.replicate (operations.count handle) pass, [])
  else ([], List.replicate (operations.count handle) fail)

theorem foldl_verdict (operations : List String) (handle : String) (ok : Bool) (pass fail : String)
    (r : List String × List String) :
    operations.foldl (fun r s => if s ≠ handle then r
      else if ok then (r.1 ++ [pass], r.2) else (r.1, r.2 ++ [fail])) r =
      if ok then (r.1 ++ List.replicate (operations.count handle) pass, r.2)
      else (r.1, r.2 ++ List.replicate (operations.count handle) fail) := by
  induction operations generalizing r with
  | nil => cases ok <;> simp
  | cons s operations ih =>
    rw [List.foldl_cons, ih, List.count_cons]
    by_cases hs : s = handle
    · cases ok <;> simp [hs, List.replicate_succ]
    · cases ok <;> simp [hs]

section Verdict

variable {operations : List String} (handle : String) (ok : Bool) (pass fail : String)

/-- With the handles distinct, a step passes at most one operation. -/
theorem length_operationVerdict_le (hn : operations.Nodup) :
    (operationVerdict operations handle ok pass fail).1.length ≤ 1 := by
  have := List.nodup_iff_count_le_one.mp hn handle
  unfold operationVerdict
  split_ifs <;> simp [this]

/-- With the handles distinct, a step passes one operation and fails none exactly when the
operation with its handle exists and its call is `ok`. -/
theorem operationVerdict_passed_iff (hn : operations.Nodup) :
    (operationVerdict operations handle ok pass fail).2 = [] ∧
        (operationVerdict operations handle ok pass fail).1.length = 1 ↔ handle ∈ operations ∧ ok = true := by
  unfold operationVerdict
  by_cases hm : handle ∈ operations
  · have hne : operations.length ≠ 0 := fun h => by simp [List.length_eq_zero.mp h] at hm
    rw [List.count_eq_one_of_mem hn hm, if_neg hne]
    cases ok <;> simp [hm]
  · rw [List.count_eq_zero_of_not_mem hm]
    split_ifs <;> simp [hm]

end Verdict

section Operations

variable {State : Type} [DecidableEq State] (finished : State)

/-- `_test_setstring_operation(mdib, client)`: `setstring_operations` the handles of the mdib's
SetString operation descriptors, `setString h` the invocation state `set_string(h, 'hoppeldipop')`
resolves to within its timeout, `none` for `TimeoutError`. -/
def testSetstringOperation (setstring_operations : List String) (setString : String → Option State) :
    List String × List String :=
  if setstring_operations.length = 0 then ([], ["### Test 9 ### failed"])
  else setstring_operations.foldl (fun r s =>
    if s ≠ setstHandle then r
    else match setString s with
      | some st =>
        if st ≠ finished then (r.1, r.2 ++ ["### Test 9 ### failed"])
        else (r.1 ++ ["### Test 9 ### passed"], r.2)
      | none => (r.1, r.2 ++ ["### Test 9 ### failed"])) ([], [])

/-- `_test_setvalue_operation(mdib, client)`, the calls `set_numeric_value(h, Decimal(42))`: both
branches on the invocation state only print, and the step passes. -/
def testSetvalueOperation (setvalue_operations : List String) (setNumericValue : String → Option State) :
    List String × List String :=
  if setvalue_operations.length = 0 then ([], ["### Test 10 ### failed"])
  else setvalue_operations.foldl (fun r s =>
    if s ≠ setvalHandle then r
    else match setNumericValue s with
      | some st =>
        if st ≠ finished then (r.1 ++ ["### Test 10 ### passed"], r.2)
        else (r.1 ++ ["### Test 10 ### passed"], r.2)
      | none => (r.1, r.2 ++ ["### Test 10 ### failed"])) ([], [])

/-- Step 9 passes an operation whose call finishes. -/
theorem testSetstringOperation_eq (setstring_operations : List String) (setString : String → Option State) :
    testSetstringOperation finished setstring_operations setString =
      operationVerdict setstring_operations setstHandle (setString setstHandle = some finished)
        "### Test 9 ### passed" "### Test 9 ### failed" := by
  have h := foldl_verdict setstring_operations setstHandle (setString setstHandle = some finished)
    "### Test 9 ### passed" "### Test 9 ### failed" ([], [])
  simp only [List.nil_append] at h
  rw [testSetstringOperation, operationVerdict, ← h]
  congr 2
  funext r s
  by_cases hs : s = setstHandle
  · subst hs
    cases setString setstHandle with
    | none => simp
    | some st => by_cases hst : st = finished <;> simp [hst]
  · simp [hs]

/-- Step 10 passes an operation whose call does not time out, whatever state it ends in. -/
theorem testSetvalueOperation_eq (setvalue_operations : List String) (setNumericValue : String → Option State) :
    testSetvalueOperation finished setvalue_operations setNumericValue =
      operationVerdict setvalue_operations setvalHandle (setNumericValue setvalHandle).isSome
        "### Test 10 ### passed" "### Test 10 ### failed" := by
  have h := foldl_verdict setvalue_operations setvalHandle (setNumericValue setvalHandle).isSome
    "### Test 10 ### passed" "### Test 10 ### failed" ([], [])
  simp only [List.nil_append] at h
  rw [testSetvalueOperation, operationVerdict, ← h]
  congr 2
  funext r s
  by_cases hs : s = setvalHandle
  · subst hs
    cases setNumericValue setvalHandle <;> simp
  · simp [hs]

end Operations

/-! ## The test's assertions -/

section ClientConnects

variable {State : Type} [DecidableEq State] (finished : State) {C Sm Sa : Type}

/-- `_runtest_client_connects` from test step 5 on (discovery and connection, steps 1 to 4, are outside
the model): `patients` and `locations` the mdib's patient and location context states, the
notifications the callbacks receive during the wait, and the operation calls; `.error msg` for the
first assertion that fails, `msg` its message. -/
def runtestClientConnects (patients locations : List C) (metricNotifications : List (PyDict String Sm))
    (alertNotifications : List (PyDict String Sa)) (setstring_operations setvalue_operations : List String)
    (setString setNumericValue : String → Option State) : Except String Unit :=
  let errors : List String := if patients.isEmpty then ["### Test 5 ### failed"] else []
  let errors := if locations.isEmpty then errors ++ ["### Test 6 ### failed"] else errors
  let r := testStateUpdates (metricNotifications.foldl onMetricUpdates PyDict.empty)
    (alertNotifications.foldl onAlertUpdates PyDict.empty)
  let errors := errors ++ r.2
  let passed := r.1
  let r := testSetstringOperation finished setstring_operations setString
  let errors := errors ++ r.2
  let passed := passed ++ r.1
  let r := testSetvalueOperation finished setvalue_operations setNumericValue
  let errors := errors ++ r.2
  let passed := passed ++ r.1
  if errors.length ≠ 0 then .error ("expected no Errors, got:" ++ ", ".intercalate errors)
  else if passed.length ≠ 4 then .error ("expected 4 Passed, got :" ++ ", ".intercalate passed)
  else .ok ()

theorem assertions_eq_ok_iff (errors passed : List String) (m₁ m₂ : String) :
    (if errors.length ≠ 0 then Except.error m₁ else if passed.length ≠ 4 then .error m₂ else .ok ()) =
      .ok () ↔ errors = [] ∧ passed.length = 4 := by
  split_ifs with he hp <;> simp_all

/-- With the handles of each kind of operation distinct, as an mdib's are, the test passes exactly
when the mdib has a patient and a location context, some metric and some alert notification named a
handle, the SetString operation `string.ch0.vmd1_sco_0` exists and its call finishes, and the SetValue
operation `numeric.ch0.vmd1_sco_0` exists and its call does not time out, whatever state it ends in. -/
theorem runtestClientConnects_eq_ok_iff (patients locations : List C) (ms : List (PyDict String Sm))
    (as : List (PyDict String Sa)) {setstring_operations setvalue_operations : List String}
    (hs : setstring_operations.Nodup) (hv : setvalue_operations.Nodup)
    (setString setNumericValue : String → Option State) :
    runtestClientConnects finished patients locations ms as setstring_operations setvalue_operations setString
        setNumericValue = .ok () ↔
      patients ≠ [] ∧ locations ≠ [] ∧ (∃ n ∈ ms, n.items ≠ []) ∧ (∃ n ∈ as, n.items ≠ []) ∧
        (setstHandle ∈ setstring_operations ∧ setString setstHandle = some finished) ∧
        (setvalHandle ∈ setvalue_operations ∧ (setNumericValue setvalHandle).isSome) := by
  have le9 := length_operationVerdict_le setstHandle (setString setstHandle = some finished)
    "### Test 9 ### passed" "### Test 9 ### failed" hs
  have iff9 := operationVerdict_passed_iff setstHandle (setString setstHandle = some finished)
    "### Test 9 ### passed" "### Test 9 ### failed" hs
  have le10 := length_operationVerdict_le setvalHandle (setNumericValue setvalHandle).isSome
    "### Test 10 ### passed" "### Test 10 ### failed" hv
  have iff10 := operationVerdict_passed_iff setvalHandle (setNumericValue setvalHandle).isSome
    "### Test 10 ### passed" "### Test 10 ### failed" hv
  simp only [runtestClientConnects, testStateUpdates_foldl, testSetstringOperation_eq, testSetvalueOperation_eq,
    assertions_eq_ok_iff]
  simp only [decide_eq_true_eq] at iff9
  rw [← iff9, ← iff10]
  generalize operationVerdict _ _ _ _ _ = V9 at le9 iff9 ⊢
  generalize operationVerdict _ _ _ _ _ = V10 at le10 iff10 ⊢
  have hne : ∀ {α : Type} (l : List α), l ≠ [] ↔ l.isEmpty = false := fun l => by cases l <;> simp
  have hall : ∀ {S : Type} (ns : List (PyDict String S)),
      (∃ n ∈ ns, n.items ≠ []) ↔ ns.all (·.items.isEmpty) = false := by
    intro S ns
    rw [Bool.eq_false_iff, ne_eq, List.all_eq_true]
    simp [List.isEmpty_iff]
  rw [hne patients, hne locations, hall ms, hall as]
  -- every other case fails an assertion on both sides
  cases patients.isEmpty <;> cases locations.isEmpty <;> cases ms.all (·.items.isEmpty) <;>
    cases as.all (·.items.isEmpty) <;> simp
  exact ⟨fun ⟨⟨h9, h10⟩, hp⟩ => ⟨⟨h9, by omega⟩, h10, by omega⟩,
    fun ⟨⟨h9, hp9⟩, h10, hp10⟩ => ⟨⟨h9, h10⟩, by omega⟩⟩

/-- Invocation states as booleans, `true` finished: the SetValue call ends unfinished. -/
theorem runtestClientConnects_eq_ok_iff_unfinished :
    ["string.ch0.vmd1_sco_0"].Nodup ∧ ["numeric.ch0.vmd1_sco_0", "numeric.ch1.vmd0"].Nodup ∧
    (runtestClientConnects true [()] [()] [PyDict.ofList [("numeric.ch1.vmd0", (0 : Int))]]
        [PyDict.ofList [("ac0.mds0", true)]] ["string.ch0.vmd1_sco_0"]
        ["numeric.ch0.vmd1_sco_0", "numeric.ch1.vmd0"] (fun _ => some true) (fun _ => some false) = .ok () ↔
      [()] ≠ [] ∧ [()] ≠ [] ∧
        (∃ n ∈ [PyDict.ofList [("numeric.ch1.vmd0", (0 : Int))]], n.items ≠ []) ∧
        (∃ n ∈ [PyDict.ofList [("ac0.mds0", true)]], n.items ≠ []) ∧
        (setstHandle ∈ ["string.ch0.vmd1_sco_0"] ∧ some true = some true) ∧
        (setvalHandle ∈ ["numeric.ch0.vmd1_sco_0", "numeric.ch1.vmd0"] ∧ (some false).isSome)) := by
  have hs : ["string.ch0.vmd1_sco_0"].Nodup := by decide
  have hv : ["numeric.ch0.vmd1_sco_0", "numeric.ch1.vmd0"].Nodup := by decide
  exact ⟨hs, hv,
    runtestClientConnects_eq_ok_iff true [()] [()] _ _ hs hv (fun _ => some true) (fun _ => some false)⟩

end ClientConnects

end ReferenceTest

end Sdc11073
