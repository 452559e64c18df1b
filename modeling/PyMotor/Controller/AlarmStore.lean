import PyMotor.Lib.Dict
import PyMotor.Lib.Json

/-!
# The alarm store

`motor/controller/observability/alarm/alarm_store.py` on the records of `motor/common/alarm/record.py`. Both calls hold
the lock of the store from their beginning to their end, so that a run is a list of calls.
-/

namespace PyMotor.Alarm

open Lib

/-! ## Records -/

inductive Category
  | alarm | clear | event | levelChange | confirm | unconfirm | otherChange
deriving DecidableEq, Repr

def Category.value : Category → Int
  | .alarm => 1
  | .clear => 2
  | .event => 3
  | .levelChange => 4
  | .confirm => 5
  | .unconfirm => 6
  | .otherChange => 7

inductive Cleared
  | no | yes
deriving DecidableEq, Repr

def Cleared.value : Cleared → Int
  | .no => 0
  | .yes => 1

inductive ClearCategory
  | auto | manual
deriving DecidableEq, Repr

def ClearCategory.value : ClearCategory → Int
  | .auto => 1
  | .manual => 2

inductive Severity
  | critical | major | minor | warning
deriving DecidableEq, Repr

def Severity.value : Severity → Int
  | .critical => 1
  | .major => 2
  | .minor => 3
  | .warning => 4

inductive EventType
  | communication | equipment | processingError | qualityOfService | environmental | integrityViolation | operational
  | physicalViolation | securityViolation | timeDomain | propertyChange | objectCreation | objectDeletion | relationChange
  | stateChange | routeChange | protectionSwitch | exceedLimit | fileTransferStatus | backupStatus | heartbeat
deriving DecidableEq, Repr

/-- The members are numbered from 1. -/
def EventType.value (type : EventType) : Int := type.ctorIdx + 1

inductive ServiceAffectedType
  | no | yes
deriving DecidableEq, Repr

def ServiceAffectedType.value : ServiceAffectedType → Int
  | .no => 0
  | .yes => 1

/-- `Record`; the three fields from `ENGINE_TYPE` and the one from `SERVICE_ID` have the default of an empty environment. -/
structure Record where
  category : Category := .alarm
  cleared : Cleared := .no
  clearCategory : ClearCategory := .auto
  occurUtc : Int := 0
  occurTime : Int := 0
  nativeMeDn : String := "Unknown"
  originSystem : String := "Unknown"
  originSystemName : String := "Unknown"
  originSystemType : String := "Unknown"
  location : String := ""
  moi : String := ""
  eventType : EventType := .communication
  alarmId : String := ""
  alarmName : String := ""
  severity : Severity := .critical
  probableCause : String := ""
  reasonId : Int := 0
  serviceAffectedType : ServiceAffectedType := .no
  additionalInformation : String := ""
  instanceId : String := ""
deriving DecidableEq, Repr

namespace Record

def format (record : Record) : JsonObj :=
  [("category", .int record.category.value), ("cleared", .int record.cleared.value),
    ("clearCategory", .int record.clearCategory.value), ("occurUtc", .int record.occurUtc),
    ("occurTime", .int record.occurTime), ("nativeMeDn", .str record.nativeMeDn), ("originSystem", .str record.originSystem),
    ("originSystemName", .str record.originSystemName), ("originSystemType", .str record.originSystemType),
    ("location", .str record.location), ("moi", .str record.moi), ("eventType", .int record.eventType.value),
    ("alarmId", .str record.alarmId), ("alarmName", .str record.alarmName), ("severity", .int record.severity.value),
    ("probableCause", .str record.probableCause), ("reasonId", .int record.reasonId),
    ("serviceAffectedType", .int record.serviceAffectedType.value),
    ("additionalInformation", .str (record.additionalInformation ++ ", pod id=" ++ record.nativeMeDn))]

/-- `INSTANCE_EXCEPTION_ALARM_ID` and `COORDINATOR_EXCEPTION_ALARM_ID`. -/
def recoverableIds : List String := ["0xFC001002", "0xFC001004"]

def recoverable (record : Record) : Bool := record.alarmId ∈ recoverableIds

def recoveryAlarmKey (record : Record) : String := record.alarmId ++ "_" ++ record.instanceId

end Record

/-! ## The store -/

structure AlarmStore where
  alarms : Dict String (List Record)
  recoverableAlarms : Dict String Record

namespace AlarmStore

/-- The source that is known from the start: `os.getenv("NORTH_PLATFORM", "").strip()`. -/
def northPlatform (env : Option String) : String := String.ofList (Text.strip (env.getD "").toList)

def new (env : Option String) : AlarmStore where
  alarms := Dict.single (northPlatform env) []
  recoverableAlarms := Dict.empty

/-- `value.append(record)` for every list of alarms. -/
def append (s : AlarmStore) (record : Record) : AlarmStore := { s with alarms := s.alarms.mapValues (· ++ [record]) }

def handleInstanceExceptionAlarm (s : AlarmStore) (record : Record) : AlarmStore :=
  let s :=
    if record.cleared = .no ∧ s.recoverableAlarms.contains record.recoveryAlarmKey = false then
      { s.append record with recoverableAlarms := s.recoverableAlarms.set record.recoveryAlarmKey record }
    else s
  if record.cleared = .yes ∧ s.recoverableAlarms.contains record.recoveryAlarmKey = true then
    { s.append record with recoverableAlarms := s.recoverableAlarms.erase record.recoveryAlarmKey }
  else s

def addAlarm (s : AlarmStore) (record : Record) : Bool × AlarmStore :=
  (true, if record.recoverable then s.handleInstanceExceptionAlarm record else s.append record)

def getAlarms (s : AlarmStore) (sourceId : String) : List (List JsonObj) × AlarmStore :=
  let result := ((s.alarms.get? sourceId).getD []).map Record.format
  (if result.isEmpty then [] else [result], { s with alarms := s.alarms.set sourceId [] })

end AlarmStore

/-- The calls of the producers and of the consumers. -/
inductive AlarmCall
  | addAlarm (record : Record)
  | getAlarms (sourceId : String)
deriving DecidableEq, Repr

namespace AlarmStore

def step (s : AlarmStore) : AlarmCall → AlarmStore
  | .addAlarm record => (s.addAlarm record).2
  | .getAlarms sourceId => (s.getAlarms sourceId).2

def run (s : AlarmStore) (calls : List AlarmCall) : AlarmStore := calls.foldl step s

/-- What a source receives over its fetches. -/
def received (source : String) : AlarmStore → List AlarmCall → List JsonObj
  | _, [] => []
  | s, .addAlarm record :: calls => received source (s.addAlarm record).2 calls
  | s, .getAlarms sourceId :: calls =>
    (if sourceId = source then (s.getAlarms sourceId).1.flatten else []) ++ received source (s.getAlarms sourceId).2 calls

end AlarmStore

/-! ## What is to be delivered -/

/-- The alarm and the instance that a record is about. -/
def Record.subject (record : Record) : String × String := (record.alarmId, record.instanceId)

/-- What the last of these records about an alarm of an instance says; an alarm of which none says anything is cleared. -/
def lastCleared (records : List Record) (subject : String × String) : Cleared :=
  ((records.filter fun record => record.subject = subject).getLast?.map Record.cleared).getD .yes

/-- A record is accepted after these records: of a recoverable alarm only what is new. -/
def Accepted (records : List Record) (record : Record) : Prop :=
  record.recoverable = true → record.cleared ≠ lastCleared records record.subject

instance (records : List Record) (record : Record) : Decidable (Accepted records record) :=
  inferInstanceAs (Decidable (_ → _))

/-- The records that are accepted since a source is known. `records` are the ones before. -/
def acceptedSince (source : String) : Bool → List Record → List AlarmCall → List Record
  | _, _, [] => []
  | known, records, .addAlarm record :: calls =>
    (if known = true ∧ Accepted records record then [record] else []) ++
      acceptedSince source known (records ++ [record]) calls
  | known, records, .getAlarms sourceId :: calls => acceptedSince source (known || sourceId = source) records calls

def Cleared.other : Cleared → Cleared
  | .no => .yes
  | .yes => .no

/-- The calls that a source depends on. -/
def AlarmCall.concerns (source : String) : AlarmCall → Bool
  | .addAlarm _ => true
  | .getAlarms sourceId => sourceId = source

/-- Raised and cleared in turn, this one first. -/
def Alternates : Cleared → List Cleared → Prop
  | _, [] => True
  | next, cleared :: rest => cleared = next ∧ Alternates next.other rest

/-! ## Open alarms -/

variable {source : String} {s : AlarmStore} {records : List Record} {record : Record}

theorem append_key_inj {a b i j : String} (hlength : a.toList.length = b.toList.length)
    (h : a ++ "_" ++ i = b ++ "_" ++ j) : a = b ∧ i = j := by
  have htexts : a.toList ++ ("_".toList ++ i.toList) = b.toList ++ ("_".toList ++ j.toList) := by
    rw [← List.append_assoc, ← List.append_assoc, ← String.toList_append, ← String.toList_append,
      ← String.toList_append, ← String.toList_append, h]
  obtain ⟨hid, hrest⟩ := List.append_inj htexts hlength
  exact ⟨String.toList_inj.mp hid, String.toList_inj.mp (List.append_cancel_left hrest)⟩

theorem length_recoverableIds {id : String} (h : id ∈ Record.recoverableIds) : id.toList.length = 10 := by
  rw [Record.recoverableIds] at h
  rcases List.mem_cons.mp h with rfl | h
  · rfl
  · cases List.mem_singleton.mp h
    rfl

theorem recoveryAlarmKey_inj {record' : Record} (h : record.recoverable = true) (h' : record'.recoverable = true) :
    record.recoveryAlarmKey = record'.recoveryAlarmKey ↔ record.subject = record'.subject := by
  rw [Record.recoverable, decide_eq_true_eq] at h h'
  constructor
  · intro hkey
    obtain ⟨hid, hinstance⟩ := append_key_inj ((length_recoverableIds h).trans (length_recoverableIds h').symm) hkey
    rw [Record.subject, Record.subject, hid, hinstance]
  · intro hsubject
    obtain ⟨hid, hinstance⟩ := Prod.mk.inj hsubject
    rw [Record.recoveryAlarmKey, Record.recoveryAlarmKey, hid, hinstance]

theorem lastCleared_snoc (records : List Record) (record : Record) (subject : String × String) :
    lastCleared (records ++ [record]) subject =
      if record.subject = subject then record.cleared else lastCleared records subject := by
  rw [lastCleared, List.filter_append]
  by_cases h : record.subject = subject
  · rw [List.filter_cons_of_pos (by simpa using h), List.filter_nil, List.getLast?_append, if_pos h]
    rfl
  · rw [List.filter_cons_of_neg (by simpa using h), List.filter_nil, List.append_nil, if_neg h, lastCleared]

/-- The open alarms of the store are those that were raised last. -/
def Open (records : List Record) (s : AlarmStore) : Prop :=
  ∀ record : Record, record.recoverable = true →
    (s.recoverableAlarms.contains record.recoveryAlarmKey = true ↔ lastCleared records record.subject = .no)

theorem open_new (env : Option String) : Open [] (AlarmStore.new env) := fun record _ => by
  simp [AlarmStore.new, lastCleared, Dict.contains]

theorem Open.stay (h : Open records s)
    (hlast : record.recoverable = true → record.cleared = lastCleared records record.subject)
    {s' : AlarmStore} (hs' : s'.recoverableAlarms = s.recoverableAlarms) : Open (records ++ [record]) s' := by
  intro other hother
  rw [hs', h other hother, lastCleared_snoc]
  by_cases hsubject : record.subject = other.subject
  · have hrecoverable : record.recoverable = true := by
      rw [Record.recoverable, (Prod.mk.inj hsubject).1]
      exact hother
    rw [if_pos hsubject, hlast hrecoverable, hsubject]
  · rw [if_neg hsubject]

theorem Open.change (h : Open records s) (hrecoverable : record.recoverable = true) {s' : AlarmStore}
    (hs' : ∀ key, s'.recoverableAlarms.contains key = true ↔
      if key = record.recoveryAlarmKey then record.cleared = .no else s.recoverableAlarms.contains key = true) :
    Open (records ++ [record]) s' := by
  intro other hother
  rw [hs', lastCleared_snoc]
  by_cases hsubject : record.subject = other.subject
  · rw [if_pos hsubject, if_pos ((recoveryAlarmKey_inj hother hrecoverable).mpr hsubject.symm)]
  · have hkey : other.recoveryAlarmKey ≠ record.recoveryAlarmKey := fun heq =>
      hsubject ((recoveryAlarmKey_inj hother hrecoverable).mp heq).symm
    rw [if_neg hsubject, if_neg hkey]
    exact h other hother

theorem accepted_iff_of_recoverable (hrecoverable : record.recoverable = true) :
    Accepted records record ↔ record.cleared ≠ lastCleared records record.subject :=
  ⟨fun h => h hrecoverable, fun h _ => h⟩

theorem handleInstanceExceptionAlarm_spec (h : Open records s) (hrecoverable : record.recoverable = true) :
    (s.handleInstanceExceptionAlarm record).alarms =
        (if Accepted records record then s.alarms.mapValues (· ++ [record]) else s.alarms) ∧
      Open (records ++ [record]) (s.handleInstanceExceptionAlarm record) := by
  have hopen := h record hrecoverable
  rw [AlarmStore.handleInstanceExceptionAlarm]
  simp only [accepted_iff_of_recoverable hrecoverable]
  cases hcleared : record.cleared with
  | no =>
      cases hcontains : s.recoverableAlarms.contains record.recoveryAlarmKey with
      | true =>
          have hlast : lastCleared records record.subject = .no := hopen.mp hcontains
          simp only [hcontains, hlast, reduceCtorEq, and_false, false_and, if_false, ne_eq, not_true_eq_false, true_and]
          exact h.stay (fun _ => hcleared.trans hlast.symm) rfl
      | false =>
          have hlast : lastCleared records record.subject ≠ .no := fun heq => by
            rw [hopen.mpr heq] at hcontains
            cases hcontains
          simp only [reduceCtorEq, and_true, false_and, if_false, if_true, ne_eq, hlast.symm, not_false_eq_true,
            AlarmStore.append, true_and]
          refine h.change hrecoverable fun key => ?_
          rw [Dict.contains_set]
          by_cases hkey : key = record.recoveryAlarmKey
          · simp [hkey, hcleared]
          · simp [hkey]
  | yes =>
      cases hcontains : s.recoverableAlarms.contains record.recoveryAlarmKey with
      | true =>
          have hlast : lastCleared records record.subject = .no := hopen.mp hcontains
          simp only [hcontains, hlast, reduceCtorEq, and_false, and_true, if_false, if_true, ne_eq, not_false_eq_true,
            AlarmStore.append, true_and]
          refine h.change hrecoverable fun key => ?_
          rw [Dict.contains_iff, Dict.contains_iff, Dict.get?_erase]
          by_cases hkey : key = record.recoveryAlarmKey
          · simp [hkey, hcleared]
          · simp [hkey]
      | false =>
          have hlast : lastCleared records record.subject = .yes := by
            cases hvalue : lastCleared records record.subject with
            | yes => rfl
            | no =>
                rw [hopen.mpr hvalue] at hcontains
                cases hcontains
          simp only [hcontains, hlast, reduceCtorEq, and_false, false_and, if_false, ne_eq, not_true_eq_false, true_and]
          exact h.stay (fun _ => hcleared.trans hlast.symm) rfl

theorem addAlarm_spec (h : Open records s) (record : Record) :
    (s.addAlarm record).2.alarms =
        (if Accepted records record then s.alarms.mapValues (· ++ [record]) else s.alarms) ∧
      Open (records ++ [record]) (s.addAlarm record).2 := by
  rw [AlarmStore.addAlarm]
  cases hrecoverable : record.recoverable with
  | true =>
      rw [if_pos rfl]
      exact handleInstanceExceptionAlarm_spec h hrecoverable
  | false =>
      have hnot : ¬ record.recoverable = true := by rw [hrecoverable]; decide
      have haccepted : Accepted records record := fun htrue => absurd htrue hnot
      rw [if_pos haccepted]
      exact ⟨rfl, h.stay (fun htrue => absurd htrue hnot) rfl⟩

/-! ## Delivery -/

/-- The alarms that wait for a source. -/
def AlarmStore.pending (s : AlarmStore) (source : String) : List Record := (s.alarms.get? source).getD []

theorem received_getAlarms (s : AlarmStore) (source : String) :
    (s.getAlarms source).1.flatten = (s.pending source).map Record.format := by
  rw [AlarmStore.getAlarms, AlarmStore.pending]
  dsimp only
  split
  · rename_i hempty
    rw [List.isEmpty_iff.mp hempty]
    rfl
  · exact List.append_nil _

theorem pending_addAlarm (h : Open records s) (record : Record) :
    (s.addAlarm record).2.pending source =
      s.pending source ++
        if s.alarms.contains source = true ∧ Accepted records record then [record] else [] := by
  rw [AlarmStore.pending, AlarmStore.pending, (addAlarm_spec h record).1]
  by_cases haccepted : Accepted records record
  · rw [if_pos haccepted, Dict.get?_mapValues]
    cases hsource : s.alarms.get? source with
    | none => simp [Dict.contains, hsource]
    | some queue => simp [Dict.contains, hsource, haccepted]
  · simp [haccepted]

theorem contains_addAlarm (h : Open records s) (record : Record) :
    (s.addAlarm record).2.alarms.contains source = s.alarms.contains source := by
  rw [(addAlarm_spec h record).1]
  split
  · rw [Dict.contains, Dict.contains, Dict.get?_mapValues, Option.isSome_map]
  · rfl

theorem pending_getAlarms (s : AlarmStore) (sourceId source : String) :
    (s.getAlarms sourceId).2.pending source = if sourceId = source then [] else s.pending source := by
  rw [AlarmStore.getAlarms, AlarmStore.pending, AlarmStore.pending, Dict.get?_set]
  by_cases h : sourceId = source
  · simp [h]
  · simp [h, Ne.symm h]

theorem contains_getAlarms (s : AlarmStore) (sourceId source : String) :
    (s.getAlarms sourceId).2.alarms.contains source = (s.alarms.contains source || sourceId = source) := by
  rw [Bool.eq_iff_iff, AlarmStore.getAlarms, Dict.contains_set, Bool.or_eq_true, decide_eq_true_eq]
  exact or_comm.trans (or_congr Iff.rfl eq_comm)

theorem received_pending (source : String) (calls : List AlarmCall) (h : Open records s) : ∃ delivered,
    AlarmStore.received source s calls = delivered.map Record.format ∧
      delivered ++ (s.run calls).pending source =
        s.pending source ++ acceptedSince source (s.alarms.contains source) records calls := by
  induction calls generalizing s records with
  | nil => exact ⟨[], rfl, (List.append_nil _).symm⟩
  | cons call calls ih =>
      cases call with
      | addAlarm record =>
          obtain ⟨delivered, hreceived, heq⟩ := ih (addAlarm_spec h record).2
          refine ⟨delivered, hreceived, ?_⟩
          rw [pending_addAlarm h, contains_addAlarm h, List.append_assoc] at heq
          exact heq
      | getAlarms sourceId =>
          have hopen : Open records (s.getAlarms sourceId).2 := h
          obtain ⟨delivered, hreceived, heq⟩ := ih hopen
          rw [pending_getAlarms, contains_getAlarms] at heq
          by_cases hsource : sourceId = source
          · subst hsource
            refine ⟨s.pending sourceId ++ delivered, ?_, ?_⟩
            · rw [AlarmStore.received, if_pos rfl, received_getAlarms, hreceived, List.map_append]
            · rw [if_pos rfl, List.nil_append] at heq
              rw [List.append_assoc]
              exact congrArg _ heq
          · refine ⟨delivered, ?_, ?_⟩
            · rw [AlarmStore.received, if_neg hsource, List.nil_append, hreceived]
            · rw [if_neg hsource] at heq
              exact heq

theorem received_filter {s' : AlarmStore} (h : Open records s) (h' : Open records s')
    (hpending : s.pending source = s'.pending source) (hknown : s.alarms.contains source = s'.alarms.contains source)
    (calls : List AlarmCall) :
    AlarmStore.received source s calls = AlarmStore.received source s' (calls.filter (AlarmCall.concerns source)) := by
  induction calls generalizing s s' records with
  | nil => rfl
  | cons call calls ih =>
      cases call with
      | addAlarm record =>
          rw [List.filter_cons_of_pos (by rfl)]
          refine ih (addAlarm_spec h record).2 (addAlarm_spec h' record).2 ?_ ?_
          · rw [pending_addAlarm h, pending_addAlarm h', hpending, hknown]
          · rw [contains_addAlarm h, contains_addAlarm h', hknown]
      | getAlarms sourceId =>
          have hopen : Open records (s.getAlarms sourceId).2 := h
          have hopen' : Open records (s'.getAlarms sourceId).2 := h'
          by_cases hsource : sourceId = source
          · subst hsource
            rw [List.filter_cons_of_pos (by simp [AlarmCall.concerns]), AlarmStore.received, AlarmStore.received,
              received_getAlarms, received_getAlarms, hpending]
            refine congrArg _ (ih hopen hopen' ?_ ?_)
            · rw [pending_getAlarms, pending_getAlarms, hpending]
            · rw [contains_getAlarms, contains_getAlarms, hknown]
          · rw [List.filter_cons_of_neg (by simp [AlarmCall.concerns, hsource]), AlarmStore.received, if_neg hsource]
            refine ih hopen h' ?_ ?_
            · rw [pending_getAlarms, if_neg hsource, hpending]
            · rw [contains_getAlarms, decide_eq_false hsource, Bool.or_false, hknown]

/-! ## Alternation -/

theorem Alternates.of_append {next : Cleared} {l l' : List Cleared} (h : Alternates next (l ++ l')) : Alternates next l := by
  induction l generalizing next with
  | nil => trivial
  | cons cleared l ih => exact ⟨h.1, ih h.2⟩

theorem Cleared.eq_other_iff {a b : Cleared} : a = b.other ↔ a ≠ b := by
  cases a <;> cases b <;> decide

theorem alternates_accepted {subject : String × String} (hsubject : subject.1 ∈ Record.recoverableIds)
    (source : String) (records : List Record) (calls : List AlarmCall) :
    Alternates (lastCleared records subject).other
      (((acceptedSince source true records calls).filter fun record => record.subject = subject).map Record.cleared) := by
  induction calls generalizing records with
  | nil => trivial
  | cons call calls ih =>
      cases call with
      | getAlarms sourceId => exact ih records
      | addAlarm record =>
          have hnext := ih (records ++ [record])
          rw [lastCleared_snoc] at hnext
          rw [acceptedSince, List.filter_append, List.map_append]
          by_cases hrecord : record.subject = subject
          · have hrecoverable : record.recoverable = true := by
              rw [Record.recoverable, decide_eq_true_eq]
              rw [← hrecord] at hsubject
              exact hsubject
            rw [if_pos hrecord] at hnext
            by_cases hlast : record.cleared = lastCleared records subject
            · have hnot : ¬ (true = true ∧ Accepted records record) := by
                rw [accepted_iff_of_recoverable hrecoverable, hrecord]
                exact fun h => h.2 hlast
              rw [if_neg hnot, ← hlast]
              exact hnext
            · have haccepted : true = true ∧ Accepted records record :=
                ⟨rfl, (accepted_iff_of_recoverable hrecoverable).mpr (hrecord ▸ hlast)⟩
              have hother : record.cleared = (lastCleared records subject).other := Cleared.eq_other_iff.mpr hlast
              rw [if_pos haccepted, List.filter_cons_of_pos (by simpa using hrecord), List.filter_nil, List.map_singleton,
                List.singleton_append]
              refine ⟨hother, ?_⟩
              rw [← hother]
              exact hnext
          · rw [if_neg hrecord] at hnext
            have hfilter : ((if true = true ∧ Accepted records record then [record] else []).filter
                fun record => record.subject = subject) = [] := by
              split
              · rw [List.filter_cons_of_neg (by simpa using hrecord), List.filter_nil]
              · rfl
            rw [hfilter]
            exact hnext

theorem received_fetch (source : String) (s : AlarmStore) (calls : List AlarmCall) :
    AlarmStore.received source s (calls ++ [.getAlarms source]) =
      AlarmStore.received source s calls ++ ((s.run calls).pending source).map Record.format := by
  induction calls generalizing s with
  | nil =>
      have hfetch : AlarmStore.received source s [.getAlarms source] =
          (if source = source then (s.getAlarms source).1.flatten else []) ++ [] := rfl
      rw [List.nil_append, hfetch, if_pos rfl, received_getAlarms, List.append_nil]
      rfl
  | cons call calls ih =>
      cases call with
      | addAlarm record => exact ih _
      | getAlarms sourceId =>
          rw [List.cons_append, AlarmStore.received, ih, AlarmStore.received, List.append_assoc]
          rfl

theorem pending_new (env : Option String) (source : String) : (AlarmStore.new env).pending source = [] := by
  rw [AlarmStore.pending]
  cases hget : (AlarmStore.new env).alarms.get? source with
  | none => rfl
  | some queue =>
      have hmem : (source, queue) ∈ [(AlarmStore.northPlatform env, ([] : List Record))] := Dict.get?_eq_some_iff.mp hget
      cases List.mem_singleton.mp hmem
      rfl

theorem contains_new (env : Option String) (source : String) :
    (AlarmStore.new env).alarms.contains source = decide (source = AlarmStore.northPlatform env) := by
  rw [Bool.eq_iff_iff, Dict.contains_iff_mem_keys, decide_eq_true_eq]
  exact List.mem_singleton

/-- Every source receives what is accepted since it is known, once and in order, whatever the others fetch; for the source
that is known from the start the records of a recoverable alarm alternate. -/
theorem alarms_delivered (env : Option String) (source : String) (calls : List AlarmCall) :
    (∃ delivered,
      AlarmStore.received source (AlarmStore.new env) calls = delivered.map Record.format ∧
      delivered ++ ((AlarmStore.new env).run calls).pending source =
        acceptedSince source (source = AlarmStore.northPlatform env) [] calls ∧
      (source = AlarmStore.northPlatform env → ∀ subject : String × String, subject.1 ∈ Record.recoverableIds →
        Alternates .no ((delivered.filter fun record => record.subject = subject).map Record.cleared))) ∧
    AlarmStore.received source (AlarmStore.new env) (calls ++ [.getAlarms source]) =
      (acceptedSince source (source = AlarmStore.northPlatform env) [] calls).map Record.format ∧
    AlarmStore.received source (AlarmStore.new env) calls =
      AlarmStore.received source (AlarmStore.new env) (calls.filter (AlarmCall.concerns source)) := by
  have hpending := received_pending source calls (open_new env)
  rw [pending_new, List.nil_append, contains_new] at hpending
  obtain ⟨delivered, hreceived, heq⟩ := hpending
  refine ⟨⟨delivered, hreceived, heq, ?_⟩, ?_, received_filter (open_new env) (open_new env) rfl rfl calls⟩
  · intro hsource subject hsubject
    have halternates := alternates_accepted hsubject source [] calls
    rw [decide_eq_true hsource] at heq
    rw [← heq, List.filter_append, List.map_append] at halternates
    exact halternates.of_append
  · rw [received_fetch, hreceived, ← heq, List.map_append]

end PyMotor.Alarm
