import XrtcServer.Server.Model.Request
/-!
# What a request's text decides

The fields a command reads are a list of keys with types, and `scan` says
how reading that list ends: with all the values, at a missing key, or at a
value of another type. Every handler ends as its scan does
(`processCommand_eq`), and only the second ending is caught where fields
are read. `processRequest` therefore keeps its contract exactly where the
text leads to no other exception (`CaughtOnly`).
-/

namespace XrtcServer

namespace Server

/-- The types the fields of a request are converted to. -/
inductive FieldType where
  | int
  | uint64
  | string

/-- The values the conversion to a type takes. -/
def FieldType.accepts : FieldType → Json → Bool
  | .int, .boolean _ => true
  | .int, .numberInteger _ | .int, .numberUnsigned _ | .int, .numberFloat _ _ => true
  | .uint64, .numberInteger _ | .uint64, .numberUnsigned _ | .uint64, .numberFloat _ _ => true
  | .string, .string _ => true
  | _, _ => false

/-- The fields of a request about the media of a stream. -/
def mediaFields : List (String × FieldType) :=
  [("uid", .uint64), ("stream_name", .string), ("audio", .int), ("video", .int)]

/-- The fields of a request that ends a stream. -/
def stopFields : List (String × FieldType) := [("uid", .uint64), ("stream_name", .string)]

/-- The fields of an answer. -/
def answerFields : List (String × FieldType) :=
  [("uid", .uint64), ("stream_name", .string), ("type", .string), ("answer", .string)]

/-- The fields of each known command, in the order they are read. -/
def commandFields (cmdno : ℤ) : Option (List (String × FieldType)) :=
  if cmdno = CMDNO_PUSH then some mediaFields
  else if cmdno = CMDNO_PULL then some mediaFields
  else if cmdno = CMDNO_STOPPUSH then some stopFields
  else if cmdno = CMDNO_STOPPULL then some stopFields
  else if cmdno = CMDNO_ANSWER then some answerFields
  else none

/-! ## Reading fields in order -/

/-- How reading fields in order ends. -/
def scan (root : Json) : List (String × FieldType) → Except JsonException Unit
  | [] => .ok ()
  | (key, type) :: fields =>
    match root.member key with
    | none => .error .outOfRange
    | some v => if type.accepts v then scan root fields else .error .typeError

/-- Every field is there with a value of its type. -/
def Complete (root : Json) (fields : List (String × FieldType)) : Prop :=
  ∀ f ∈ fields, ∃ v, root.member f.1 = some v ∧ f.2.accepts v

/-- No value of another type comes before the first missing field. -/
def MissingFirst (root : Json) : List (String × FieldType) → Prop
  | [] => True
  | (key, type) :: fields =>
    ∀ v, root.member key = some v → type.accepts v ∧ MissingFirst root fields

theorem scan_eq_ok {root : Json} {fields : List (String × FieldType)} :
    scan root fields = .ok () ↔ Complete root fields := by
  induction fields with
  | nil => simp [scan, Complete]
  | cons f fields ih =>
    obtain ⟨key, type⟩ := f
    cases hm : root.member key with
    | none => simp [scan, Complete, hm]
    | some v =>
      by_cases hv : type.accepts v
      · simp [scan, Complete, hm, hv, ih]
      · simp [scan, Complete, hm, hv]

theorem missingFirst_of_complete {root : Json} {fields : List (String × FieldType)}
    (h : Complete root fields) : MissingFirst root fields := by
  induction fields with
  | nil => trivial
  | cons f fields ih =>
    intro v hv
    obtain ⟨w, hw, hacc⟩ := h f List.mem_cons_self
    obtain rfl : w = v := Option.some.inj (hw.symm.trans hv)
    exact ⟨hacc, ih fun g hg => h g (List.mem_cons_of_mem f hg)⟩

/-- **The two ways a reading fails.** It ends at a missing key exactly when
it is incomplete and no value of another type comes first; otherwise it
ends at that value. -/
theorem scan_eq_error {root : Json} {fields : List (String × FieldType)}
    (h : ¬ Complete root fields) :
    (MissingFirst root fields ∧ scan root fields = .error .outOfRange) ∨
      (¬ MissingFirst root fields ∧ scan root fields = .error .typeError) := by
  induction fields with
  | nil => exact absurd (fun f hf => by cases hf) h
  | cons f fields ih =>
    obtain ⟨key, type⟩ := f
    cases hm : root.member key with
    | none => exact Or.inl ⟨fun v hv => (by rw [hm] at hv; cases hv), by simp [scan, hm]⟩
    | some v =>
      by_cases hv : type.accepts v
      · have hrest : ¬ Complete root fields := by
          intro hc
          refine h fun g hg => ?_
          rcases List.mem_cons.1 hg with rfl | hg
          · exact ⟨v, hm, hv⟩
          · exact hc g hg
        simpa [scan, MissingFirst, hm, hv] using ih hrest
      · exact Or.inr ⟨fun hmf => hv (hmf v hm).1, by simp [scan, hm, hv]⟩

/-! ## The handlers -/

/-- A computation that ends as a scan does: with some value where the scan
completes, with the scan's exception where it does not. -/
def EndsAs {α : Type} (c : Except JsonException α) (s : Except JsonException Unit) : Prop :=
  c.map (fun _ => ()) = s

/-- A conversion that takes the values of a type and no others. -/
def Converts {α : Type} (conv : Json → Except JsonException α) (type : FieldType) : Prop :=
  ∀ v, if type.accepts v then ∃ a, conv v = .ok a else conv v = .error .typeError

theorem converts_toInt : Converts Json.toInt .int := by
  intro v
  cases v <;> simp [FieldType.accepts, Json.toInt]

theorem converts_toUInt64 : Converts Json.toUInt64 .uint64 := by
  intro v
  cases v <;> simp [FieldType.accepts, Json.toUInt64]

theorem converts_toStr : Converts Json.toStr .string := by
  intro v
  cases v <;> simp [FieldType.accepts, Json.toStr]

/-- Reading one more field of an object, and then the rest. -/
theorem EndsAs.field {α β : Type} {members : List (String × Json)} {key : String}
    {type : FieldType} {fields : List (String × FieldType)}
    {conv : Json → Except JsonException α} {rest : α → Except JsonException β}
    (hconv : Converts conv type) (hrest : ∀ a, EndsAs (rest a) (scan (.object members) fields)) :
    EndsAs ((Json.object members).atKey key >>= conv >>= rest)
      (scan (.object members) ((key, type) :: fields)) := by
  cases hm : members.lookup key with
  | none => simp [EndsAs, scan, Json.atKey, Json.member, hm, Except.map, bind, Except.bind]
  | some v =>
    have hv := hconv v
    by_cases hacc : type.accepts v
    · rw [if_pos hacc] at hv
      obtain ⟨a, ha⟩ := hv
      simpa [EndsAs, scan, Json.atKey, Json.member, hm, hacc, ha, bind, Except.bind]
        using hrest a
    · rw [if_neg hacc] at hv
      simp [EndsAs, scan, Json.atKey, Json.member, hm, hacc, hv, Except.map, bind, Except.bind]

theorem EndsAs.ok {α : Type} {c : Except JsonException α} (h : EndsAs c (.ok ())) :
    ∃ a, c = .ok a := by
  cases c with
  | ok a => exact ⟨a, rfl⟩
  | error e => cases h

theorem EndsAs.error {α : Type} {c : Except JsonException α} {e : JsonException}
    (h : EndsAs c (.error e)) : c = .error e := by
  cases c with
  | ok a => cases h
  | error e' => exact congrArg Except.error (Except.error.inj h)

/-- **Every handler reads its command's fields in order**, and a command
without a handler is refused. -/
theorem processCommand_spec (cmdno : ℤ) (o : Origin) (members : List (String × Json))
    (logId : ℕ) :
    match commandFields cmdno with
    | none => processCommand cmdno o (.object members) logId = ⟨.ok (-1), []⟩
    | some fields => ∃ c, processCommand cmdno o (.object members) logId = catchOutOfRange c ∧
        EndsAs c (scan (.object members) fields) := by
  have hmedia : ∃ c, processMedia cmdno o (.object members) logId = catchOutOfRange c ∧
      EndsAs c (scan (.object members) mediaFields) := by
    refine ⟨_, rfl, ?_⟩
    refine EndsAs.field converts_toUInt64 fun uid => ?_
    refine EndsAs.field converts_toStr fun streamName => ?_
    refine EndsAs.field converts_toInt fun audio => ?_
    exact EndsAs.field converts_toInt fun video => rfl
  have hstop : ∃ c, processStop cmdno o (.object members) logId = catchOutOfRange c ∧
      EndsAs c (scan (.object members) stopFields) := by
    refine ⟨_, rfl, ?_⟩
    refine EndsAs.field converts_toUInt64 fun uid => ?_
    exact EndsAs.field converts_toStr fun streamName => rfl
  have hanswer : ∃ c, processAnswer cmdno o (.object members) logId = catchOutOfRange c ∧
      EndsAs c (scan (.object members) answerFields) := by
    refine ⟨_, rfl, ?_⟩
    refine EndsAs.field converts_toUInt64 fun uid => ?_
    refine EndsAs.field converts_toStr fun streamName => ?_
    refine EndsAs.field converts_toStr fun type => ?_
    exact EndsAs.field converts_toStr fun answer => rfl
  by_cases hpush : cmdno = CMDNO_PUSH
  · simp only [commandFields, processCommand, if_pos hpush]
    exact hmedia
  by_cases hpull : cmdno = CMDNO_PULL
  · simp only [commandFields, processCommand, if_neg hpush, if_pos hpull]
    exact hmedia
  by_cases hstopPush : cmdno = CMDNO_STOPPUSH
  · simp only [commandFields, processCommand, if_neg hpush, if_neg hpull, if_pos hstopPush]
    exact hstop
  by_cases hstopPull : cmdno = CMDNO_STOPPULL
  · simp only [commandFields, processCommand, if_neg hpush, if_neg hpull, if_neg hstopPush,
      if_pos hstopPull]
    exact hstop
  by_cases hans : cmdno = CMDNO_ANSWER
  · simp only [commandFields, processCommand, if_neg hpush, if_neg hpull, if_neg hstopPush,
      if_neg hstopPull, if_pos hans]
    exact hanswer
  · simp only [commandFields, processCommand, if_neg hpush, if_neg hpull, if_neg hstopPush,
      if_neg hstopPull, if_neg hans]

/-! ## The messages -/

/-- The envelope of a message made on behalf of a request: its worker, its
connection and the connection's fd, under a known command. -/
structure FromOrigin (o : Origin) (msg : RtcMsg) : Prop where
  worker : msg.worker = some o.worker
  conn : msg.conn = some o.conn
  fd : msg.fd = o.fd
  known : (commandFields msg.cmdno).isSome

theorem bind_eq_ok {α β : Type} {x : Except JsonException α} {f : α → Except JsonException β}
    {b : β} (h : (x >>= f) = .ok b) : ∃ a, f a = .ok b := by
  cases x with
  | error e => cases h
  | ok a => exact ⟨a, h⟩

theorem mem_catchOutOfRange {c : Except JsonException RtcMsg} {msg : RtcMsg}
    (h : msg ∈ (catchOutOfRange c).sent) : c = .ok msg := by
  match c with
  | .ok msg' =>
    obtain rfl := List.mem_singleton.1 h
    rfl
  | .error e => cases e <;> cases h

theorem processMedia_sent {cmdno : ℤ} {o : Origin} {root : Json} {logId : ℕ} {msg : RtcMsg}
    (hk : (commandFields cmdno).isSome) (h : msg ∈ (processMedia cmdno o root logId).sent) :
    FromOrigin o msg := by
  obtain ⟨uid, h⟩ := bind_eq_ok (mem_catchOutOfRange h)
  obtain ⟨streamName, h⟩ := bind_eq_ok h
  obtain ⟨audio, h⟩ := bind_eq_ok h
  obtain ⟨video, h⟩ := bind_eq_ok h
  obtain rfl := Except.ok.inj h
  exact ⟨rfl, rfl, rfl, hk⟩

theorem processStop_sent {cmdno : ℤ} {o : Origin} {root : Json} {logId : ℕ} {msg : RtcMsg}
    (hk : (commandFields cmdno).isSome) (h : msg ∈ (processStop cmdno o root logId).sent) :
    FromOrigin o msg := by
  obtain ⟨uid, h⟩ := bind_eq_ok (mem_catchOutOfRange h)
  obtain ⟨streamName, h⟩ := bind_eq_ok h
  obtain rfl := Except.ok.inj h
  exact ⟨rfl, rfl, rfl, hk⟩

theorem processAnswer_sent {cmdno : ℤ} {o : Origin} {root : Json} {logId : ℕ} {msg : RtcMsg}
    (hk : (commandFields cmdno).isSome) (h : msg ∈ (processAnswer cmdno o root logId).sent) :
    FromOrigin o msg := by
  obtain ⟨uid, h⟩ := bind_eq_ok (mem_catchOutOfRange h)
  obtain ⟨streamName, h⟩ := bind_eq_ok h
  obtain ⟨type, h⟩ := bind_eq_ok h
  obtain ⟨answer, h⟩ := bind_eq_ok h
  obtain rfl := Except.ok.inj h
  exact ⟨rfl, rfl, rfl, hk⟩

/-- **A request sends messages with its own envelope only.** -/
theorem processRequest_sent {parse : List UInt8 → Except JsonException Json} {o : Origin}
    {header body : Slice} {msg : RtcMsg} (h : msg ∈ (processRequest parse o header body).sent) :
    FromOrigin o msg := by
  unfold processRequest at h
  split at h
  · unfold processCommand at h
    split at h
    · rename_i hc
      exact processMedia_sent (by rw [hc]; decide) h
    · split at h
      · rename_i hc
        exact processMedia_sent (by rw [hc]; decide) h
      · split at h
        · rename_i hc
          exact processStop_sent (by rw [hc]; decide) h
        · split at h
          · rename_i hc
            exact processStop_sent (by rw [hc]; decide) h
          · split at h
            · rename_i hc
              exact processAnswer_sent (by rw [hc]; decide) h
            · cases h
  · cases h
  · cases h

/-! ## The contract -/

/-- The text is an object with a known command and all its fields, each
with a value that converts to its type. -/
def Accepted (parsed : Except JsonException Json) : Prop :=
  ∃ root v cmdno fields, parsed = .ok root ∧ root.member "cmdno" = some v ∧
    v.toInt = .ok cmdno ∧ commandFields cmdno = some fields ∧ Complete root fields

/-- What a request promises: it returns, with 0 and one message sent where
the text is accepted, and with -1 and none sent where it is not. -/
def KeepsContract (parsed : Except JsonException Json) (r : RequestResult) : Prop :=
  (Accepted parsed → ∃ msg, r = ⟨.ok 0, [msg]⟩) ∧ (¬ Accepted parsed → r = ⟨.ok (-1), []⟩)

/-- No exception but the two caught ones can arise: the text fails with a
parse error, or it is an object whose `cmdno` is there and converts to an
integer and in which no field of that command has a value of another type
before the first missing one. -/
def CaughtOnly : Except JsonException Json → Prop
  | .error e => e = .parseError
  | .ok root => ∃ v cmdno, root.member "cmdno" = some v ∧ v.toInt = .ok cmdno ∧
      ∀ fields, commandFields cmdno = some fields → MissingFirst root fields

theorem KeepsContract.returns {parsed : Except JsonException Json} {r : RequestResult}
    (h : KeepsContract parsed r) : ∃ n, r.ret = .ok n := by
  by_cases ha : Accepted parsed
  · obtain ⟨msg, hr⟩ := h.1 ha
    exact ⟨0, by rw [hr]⟩
  · exact ⟨-1, by rw [h.2 ha]⟩

variable {parse : List UInt8 → Except JsonException Json} {text : List UInt8} {root : Json}

/-- Reading the command number of a parsed text. A missing one is read as
null, and null is no integer. -/
theorem readCommand_of_parse (hp : parse text = .ok root) :
    readCommand parse text =
      match root.member "cmdno" with
      | some v => v.toInt.map fun cmdno => (cmdno, root)
      | none => .error .typeError := by
  simp only [readCommand, hp]
  cases root with
  | object members =>
    cases hm : members.lookup "cmdno" with
    | none => simp [Json.index, Json.member, hm, Json.toInt, bind, Except.bind]
    | some v =>
      cases hv : v.toInt <;>
        simp [Json.index, Json.member, hm, hv, Except.map, bind, Except.bind, pure, Except.pure]
  | _ => simp [Json.index, Json.member, Json.toInt, bind, Except.bind]

theorem toInt_eq_error {v : Json} {e : JsonException} (h : v.toInt = .error e) :
    e = .typeError := by
  cases v <;> simp_all [Json.toInt]

/-- Where the command number cannot be read, the type error escapes. -/
theorem processRequest_of_no_cmdno {o : Origin} {header body : Slice}
    (hp : parse (cstr body.data) = .ok root)
    (h : ¬ ∃ v cmdno, root.member "cmdno" = some v ∧ v.toInt = .ok cmdno) :
    processRequest parse o header body = ⟨.error .typeError, []⟩ := by
  have hread : readCommand parse (cstr body.data) = .error .typeError := by
    rw [readCommand_of_parse hp]
    cases hm : root.member "cmdno" with
    | none => rfl
    | some v =>
      cases hv : v.toInt with
      | ok cmdno => exact absurd ⟨v, cmdno, hm, hv⟩ h
      | error e =>
        obtain rfl := toInt_eq_error hv
        simp [hv, Except.map]
  simp only [processRequest, hread]

theorem processRequest_of_cmdno {o : Origin} {header body : Slice} {v : Json} {cmdno : ℤ}
    (hp : parse (cstr body.data) = .ok root) (hm : root.member "cmdno" = some v)
    (hv : v.toInt = .ok cmdno) :
    processRequest parse o header body = processCommand cmdno o root (xhead header.data).logId := by
  have hread : readCommand parse (cstr body.data) = .ok (cmdno, root) := by
    rw [readCommand_of_parse hp, hm]
    simp [hv, Except.map]
  simp only [processRequest, hread]

/-- How handling the parsed value of a text ends: accepted, refused or by
an exception. -/
inductive Outcome (parsed : Except JsonException Json) (r : RequestResult) : Prop
  | accepted (msg : RtcMsg) (ha : Accepted parsed) (hc : CaughtOnly parsed)
      (hr : r = ⟨.ok 0, [msg]⟩)
  | refused (ha : ¬ Accepted parsed) (hc : CaughtOnly parsed) (hr : r = ⟨.ok (-1), []⟩)
  | escaped (e : JsonException) (ha : ¬ Accepted parsed) (hc : ¬ CaughtOnly parsed)
      (hr : r = ⟨.error e, []⟩)

/-- Where the command number is read, the fields of the command decide. -/
theorem outcome_of_cmdno {o : Origin} {v : Json} {cmdno : ℤ} {logId : ℕ}
    (hm : root.member "cmdno" = some v) (hv : v.toInt = .ok cmdno) :
    Outcome (.ok root) (processCommand cmdno o root logId) := by
  have haccept : Accepted (.ok root) ↔
      ∃ fields, commandFields cmdno = some fields ∧ Complete root fields := by
    constructor
    · rintro ⟨r, w, n, fields, hr, hw, hn, hf, hc⟩
      obtain rfl := Except.ok.inj hr
      obtain rfl : v = w := Option.some.inj (hm.symm.trans hw)
      obtain rfl := Except.ok.inj (hn.symm.trans hv)
      exact ⟨fields, hf, hc⟩
    · rintro ⟨fields, hf, hc⟩
      exact ⟨root, v, cmdno, fields, rfl, hm, hv, hf, hc⟩
  have hcaught : CaughtOnly (.ok root) ↔
      ∀ fields, commandFields cmdno = some fields → MissingFirst root fields := by
    constructor
    · rintro ⟨w, n, hw, hn, h⟩
      obtain rfl : v = w := Option.some.inj (hm.symm.trans hw)
      obtain rfl := Except.ok.inj (hn.symm.trans hv)
      exact h
    · intro h
      exact ⟨v, cmdno, hm, hv, h⟩
  obtain ⟨members, rfl⟩ : ∃ members, root = .object members := by
    cases root with
    | object members => exact ⟨members, rfl⟩
    | _ => cases hm
  have hspec := processCommand_spec cmdno o members logId
  cases hf : commandFields cmdno with
  | none =>
    rw [hf] at hspec
    refine .refused ?_ ?_ hspec
    · simp [haccept, hf]
    · simp [hcaught, hf]
  | some fields =>
    simp only [hf, Option.some.injEq, exists_eq_left', forall_eq'] at hspec haccept hcaught
    obtain ⟨c, hc, hends⟩ := hspec
    rw [hc]
    by_cases hcomplete : Complete (.object members) fields
    · rw [scan_eq_ok.2 hcomplete] at hends
      obtain ⟨msg, rfl⟩ := hends.ok
      exact .accepted msg (haccept.2 hcomplete) (hcaught.2 (missingFirst_of_complete hcomplete)) rfl
    · have hrej : ¬ Accepted (.ok (.object members)) := mt haccept.1 hcomplete
      rcases scan_eq_error hcomplete with ⟨hmf, hs⟩ | ⟨hmf, hs⟩
      · rw [hs] at hends
        rw [hends.error]
        exact .refused hrej (hcaught.2 hmf) rfl
      · rw [hs] at hends
        rw [hends.error]
        exact .escaped .typeError hrej (mt hcaught.1 hmf) rfl

/-- **How a request ends.** -/
theorem processRequest_outcome (parse : List UInt8 → Except JsonException Json) (o : Origin)
    (header body : Slice) :
    Outcome (parse (cstr body.data)) (processRequest parse o header body) := by
  cases hp : parse (cstr body.data) with
  | error e =>
    have hrej : ¬ Accepted (.error e : Except JsonException Json) := by
      rintro ⟨root, v, cmdno, fields, hok, -⟩
      cases hok
    have hread : readCommand parse (cstr body.data) = .error e := by
      simp [readCommand, hp, bind, Except.bind]
    by_cases he : e = .parseError
    · subst he
      exact .refused hrej rfl (by simp only [processRequest, hread])
    · exact .escaped e hrej he (by cases e <;> simp_all [processRequest])
  | ok root =>
    by_cases hcmd : ∃ v cmdno, root.member "cmdno" = some v ∧ v.toInt = .ok cmdno
    · obtain ⟨v, cmdno, hm, hv⟩ := hcmd
      rw [processRequest_of_cmdno hp hm hv]
      exact outcome_of_cmdno hm hv
    · rw [processRequest_of_no_cmdno hp hcmd]
      refine .escaped .typeError ?_ ?_ rfl
      · rintro ⟨r, v, cmdno, fields, hr, hm, hv, -⟩
        obtain rfl := Except.ok.inj hr
        exact hcmd ⟨v, cmdno, hm, hv⟩
      · rintro ⟨v, cmdno, hm, hv, -⟩
        exact hcmd ⟨v, cmdno, hm, hv⟩

/-- **A request keeps its contract exactly when its text leads to no
exception but the two that are caught.** -/
theorem processRequest_keepsContract_iff (parse : List UInt8 → Except JsonException Json)
    (o : Origin) (header body : Slice) :
    KeepsContract (parse (cstr body.data)) (processRequest parse o header body) ↔
      CaughtOnly (parse (cstr body.data)) := by
  rcases processRequest_outcome parse o header body with
    ⟨msg, ha, hc, hr⟩ | ⟨ha, hc, hr⟩ | ⟨e, ha, hc, hr⟩
  · exact iff_of_true ⟨fun _ => ⟨msg, hr⟩, fun h => absurd ha h⟩ hc
  · exact iff_of_true ⟨fun h => absurd h ha, fun _ => hr⟩ hc
  · refine iff_of_false ?_ hc
    intro h
    obtain ⟨n, hn⟩ := h.returns
    rw [hr] at hn
    cases hn

/-- A parser, as far as the text `\x7b\x7d` shows it. -/
def parseBraces (text : List UInt8) : Except JsonException Json :=
  if text = [123, 125] then .ok (.object []) else .error .parseError

/-- **An object without a command number.** The missing member is read as
null, its conversion to an integer is a type error, and no handler catches
it. -/
theorem missing_cmdno_escapes :
    ¬ KeepsContract (parseBraces [123, 125])
        (processRequest parseBraces ⟨0, 0, 7⟩ ⟨[], 36⟩ ⟨[123, 125, 0], 2⟩) ∧
      (processRequest parseBraces ⟨0, 0, 7⟩ ⟨[], 36⟩ ⟨[123, 125, 0], 2⟩).ret =
        .error .typeError := by
  have hrun : processRequest parseBraces ⟨0, 0, 7⟩ ⟨[], 36⟩ ⟨[123, 125, 0], 2⟩ =
      ⟨.error .typeError, []⟩ := rfl
  refine ⟨fun h => ?_, by rw [hrun]⟩
  obtain ⟨n, hn⟩ := h.returns
  rw [hrun] at hn
  cases hn

end Server

end XrtcServer
