import FacilitatorX402.Http.StreamConnection
import FacilitatorX402.Proof.JsonRoundTrip

/-!
# What the client of a stream reads

`JSON.stringify` prints no control character, so every event is a frame of two lines. Over every run of a
connection, wherever it is cut, the client has dispatched the events that were sent, and parses their data
to what was given to `send`.
-/

namespace FacilitatorX402

open EventStream Requests

/-! ### Printed values are one line -/

namespace JsonText

/-- No control character. -/
def Printable (text : List Char) : Prop := ∀ c ∈ text, 32 ≤ c.toNat

instance (text : List Char) : Decidable (Printable text) :=
  List.decidableBAll _ _

theorem Printable.append {text text' : List Char} (h : Printable text) (h' : Printable text') :
    Printable (text ++ text') := by
  intro c hc
  rcases List.mem_append.mp hc with hc | hc
  · exact h c hc
  · exact h' c hc

theorem Printable.cons {c : Char} {text : List Char} (hc : 32 ≤ c.toNat) (h : Printable text) :
    Printable (c :: text) := by
  intro other hother
  rcases List.mem_cons.mp hother with rfl | hother
  · exact hc
  · exact h other hother

theorem Printable.oneLine {text : String} (h : Printable text.toList) : OneLine text := by
  intro c hc
  have hprintable := h c hc
  constructor <;> rintro rfl <;> exact absurd hprintable (by decide)

theorem printable_toHex (bytes : List UInt8) : Printable (HexText.toHex bytes) := by
  have hdigit : ∀ n, n < 16 → 32 ≤ (HexText.digit n).toNat := by decide
  intro c hc
  rw [HexText.toHex, List.mem_flatMap] at hc
  obtain ⟨byte, -, hc⟩ := hc
  have hbyte := byte.toNat_lt
  rcases List.mem_cons.mp hc with rfl | hc
  · exact hdigit _ (by omega)
  · rw [List.mem_singleton.mp hc]
    exact hdigit _ (by omega)

theorem printable_jsonEscape (c : Char) : Printable (jsonEscape c) := by
  have hpair : ∀ c', 32 ≤ c'.toNat → Printable ['\\', c'] := fun c' hc' =>
    .cons (by decide) (.cons hc' fun _ hnone => by cases hnone)
  unfold jsonEscape
  split_ifs with hquote hslash hback htab hfeed hform hreturn hcontrol
  · exact hpair _ (by decide)
  · exact hpair _ (by decide)
  · exact hpair _ (by decide)
  · exact hpair _ (by decide)
  · exact hpair _ (by decide)
  · exact hpair _ (by decide)
  · exact hpair _ (by decide)
  · exact .append (by decide) (printable_toHex _)
  · intro c' hc'
    rw [List.mem_singleton.mp hc']
    omega

theorem printable_jsonString (text : String) : Printable (jsonString text).toList := by
  rw [toList_jsonString]
  refine .cons (by decide) (.append (fun c hc => ?_) (by decide))
  obtain ⟨c', -, hc⟩ := List.mem_flatMap.mp hc
  exact printable_jsonEscape c' c hc

variable {numberText : JsNumber → String}

theorem printable_itemsText {values : List String} (h : ∀ value ∈ values, Printable value.toList) :
    Printable (itemsText values) := by
  induction values with
  | nil => decide
  | cons value values ih =>
      rw [itemsText_cons]
      refine (h value List.mem_cons_self).append ?_
      split
      · decide
      · exact .cons (by decide) (ih fun other hother => h other (List.mem_cons_of_mem _ hother))

theorem printable_membersText {fields : List (String × String)}
    (h : ∀ field ∈ fields, Printable field.2.toList) : Printable (membersText fields) := by
  induction fields with
  | nil => decide
  | cons field fields ih =>
      obtain ⟨name, value⟩ := field
      rw [membersText_cons]
      refine (printable_jsonString name).append (.cons (by decide) ?_)
      refine Printable.append (h (name, value) List.mem_cons_self) ?_
      split
      · decide
      · exact .cons (by decide) (ih fun other hother => h other (List.mem_cons_of_mem _ hother))

mutual

theorem printable_stringify : ∀ value : Json,
    (∀ n ∈ numbers value, Printable (numberText n).toList) →
      Printable (stringify numberText value).toList
  | .null, _ => by rw [stringify]; decide
  | .bool true, _ => by rw [stringify, if_pos rfl]; decide
  | .bool false, _ => by rw [stringify, if_neg Bool.false_ne_true]; decide
  | .num value, h => by rw [stringify]; exact h value (by simp [numbers])
  | .str value, _ => by rw [stringify]; exact printable_jsonString value
  | .arr items, h => by
      rw [stringify, toList_brackets]
      exact .cons (by decide) (printable_itemsText (printable_stringifyItems items h))
  | .obj fields, h => by
      rw [stringify, toList_jsonObject]
      exact .cons (by decide) (printable_membersText (printable_stringifyFields fields h))

theorem printable_stringifyItems : ∀ items : List Json,
    (∀ n ∈ numbersOfItems items, Printable (numberText n).toList) →
      ∀ text ∈ stringifyItems numberText items, Printable text.toList
  | [], _ => by simp [stringifyItems]
  | item :: items, h => by
      intro text htext
      rcases List.mem_cons.mp htext with rfl | htext
      · exact printable_stringify item fun n hn => h n (List.mem_append_left _ hn)
      · exact printable_stringifyItems items (fun n hn => h n (List.mem_append_right _ hn)) text htext

theorem printable_stringifyFields : ∀ fields : List (String × Json),
    (∀ n ∈ numbersOfFields fields, Printable (numberText n).toList) →
      ∀ field ∈ stringifyFields numberText fields, Printable field.2.toList
  | [], _ => by simp [stringifyFields]
  | (name, value) :: fields, h => by
      intro field hfield
      rcases List.mem_cons.mp hfield with rfl | hfield
      · exact printable_stringify value fun n hn => h n (List.mem_append_left _ hn)
      · exact printable_stringifyFields fields (fun n hn => h n (List.mem_append_right _ hn)) field hfield

end

/-- A value that is null or a text. -/
def Textual (value : Json) : Prop := value = .null ∨ ∃ text, value = .str text

theorem Textual.numbers_eq_nil {value : Json} (h : Textual value) : numbers value = [] := by
  rcases h with rfl | ⟨text, rfl⟩ <;> simp [numbers]

theorem Textual.namedOnce {value : Json} (h : Textual value) : NamedOnce value := by
  rcases h with rfl | ⟨text, rfl⟩ <;> trivial

theorem numbersOfFields_of_textual {fields : List (String × Json)}
    (h : ∀ field ∈ fields, Textual field.2) : numbersOfFields fields = [] := by
  rw [numbersOfFields_eq_flatMap]
  exact List.flatMap_eq_nil_iff.mpr fun field hfield => (h field hfield).numbers_eq_nil

/-- An object of texts under different names is read back. -/
theorem parse_textual (number : String → JsNumber) (numberText : JsNumber → String)
    {fields : List (String × Json)} (hnodup : (fields.map (·.1)).Nodup)
    (h : ∀ field ∈ fields, Textual field.2) :
    parse number (stringify numberText (.obj fields)) = some (.obj fields) := by
  refine parse_stringify_of_namedOnce ⟨hnodup, ?_⟩ fun n hn => ?_
  · exact namedOnceFields_iff.mpr fun field hfield => (h field hfield).namedOnce
  · rw [numbers, numbersOfFields_of_textual h] at hn
    cases hn

end JsonText

namespace Stream

open JsonText

/-! ### Runs of a connection -/

/-- What `publishSettlementUpdate` may be given. -/
def publishedStatuses : List String :=
  ["settlement.pending", "settlement.confirmed", "settlement.failed"]

/-- The updates are published ones. -/
def Publishes : Admits StreamConnection StreamMove (Option Sent) := fun _ _ move =>
  match move with
  | .update update => update.status ∈ publishedStatuses
  | _ => True

/-- What has been sent, the event of the lookup first. -/
def sentOver (first : Option Sent) (log : Log StreamMove (Option Sent)) : List Sent :=
  first.toList ++ log.reverse.filterMap (·.reply)

/-- What a client is to dispatch. -/
def Sent.message (numberText : JsNumber → String) (sent : Sent) : Message :=
  ⟨sent.name, stringify numberText sent.data⟩

/-- An event that ends its stream. -/
def Sent.Terminal (sent : Sent) : Prop := sent.name ∈ terminalEvents

theorem sentOver_cons (first : Option Sent) (log : Log StreamMove (Option Sent))
    (exchange : Exchange StreamMove (Option Sent)) :
    sentOver first (exchange :: log) = sentOver first log ++ exchange.reply.toList := by
  rw [sentOver, sentOver, List.reverse_cons, List.filterMap_append, List.append_assoc]
  cases hreply : exchange.reply <;> simp [hreply]

/-! ### The data of an event -/

section Data

theorem textual_definedFields {fields : List (String × Option Json)}
    (h : ∀ field ∈ fields, ∀ value ∈ field.2, Textual value) :
    ∀ field ∈ definedFields fields, Textual field.2 := by
  intro field hfield
  obtain ⟨source, hsource, hdefined⟩ := List.mem_filterMap.mp hfield
  obtain ⟨value, hvalue, rfl⟩ := Option.map_eq_some_iff.mp hdefined
  exact h source hsource value hvalue

theorem names_definedFields (fields : List (String × Option Json)) :
    ((definedFields fields).map (·.1)).Sublist (fields.map (·.1)) := by
  induction fields with
  | nil => exact .slnil
  | cons field fields ih =>
      obtain ⟨name, _ | value⟩ := field
      · exact ih.cons name
      · exact ih.cons_cons name

theorem textual_define {name text : String} {fields : List (String × Json)}
    (h : ∀ field ∈ fields, Textual field.2) :
    ∀ field ∈ define name (.str text) fields, Textual field.2 := by
  intro field hfield
  rcases mem_define hfield with rfl | hfield
  · exact .inr ⟨text, rfl⟩
  · exact h field hfield

theorem textual_texts {texts : List (String × Option String)} :
    ∀ field ∈ texts.map fun text => (text.1, text.2.map Json.str),
      ∀ value ∈ field.2, Textual value := by
  intro field hfield value hvalue
  obtain ⟨text, -, rfl⟩ := List.mem_map.mp hfield
  obtain ⟨content, -, rfl⟩ := Option.map_eq_some_iff.mp hvalue
  exact .inr ⟨content, rfl⟩

theorem textual_updateFields (update : SettlementUpdate) : ∀ field ∈ update.fields, Textual field.2 :=
  textual_definedFields (@textual_texts [("status", some update.status), ("txHash", update.txHash),
    ("receiptId", update.receiptId), ("errorReason", update.errorReason),
    ("timestamp", some update.timestamp)])

theorem nodup_updateFields (update : SettlementUpdate) : (update.fields.map (·.1)).Nodup :=
  List.Nodup.sublist (names_definedFields _) (by simp)

theorem textual_dataFields (data : StreamData) : ∀ field ∈ data.fields, Textual field.2 := by
  cases data with
  | realtime requestId update => exact textual_define (textual_define (textual_updateFields update))
  | db requestId row =>
      apply textual_definedFields
      intro field hfield value hvalue
      simp only [List.mem_cons, List.not_mem_nil, or_false] at hfield
      rcases hfield with rfl | rfl | rfl | rfl | rfl
      · exact .inr ⟨_, (Option.some.inj hvalue).symm⟩
      · exact .inr ⟨_, (Option.some.inj hvalue).symm⟩
      · rw [← Option.some.inj hvalue]
        cases row.txHash with
        | none => exact .inl rfl
        | some txHash => exact .inr ⟨txHash, rfl⟩
      · obtain ⟨ms, -, rfl⟩ := Option.map_eq_some_iff.mp hvalue
        exact .inr ⟨_, rfl⟩
      · exact .inr ⟨_, (Option.some.inj hvalue).symm⟩

theorem nodup_dataFields (data : StreamData) : (data.fields.map (·.1)).Nodup := by
  cases data with
  | realtime requestId update => exact nodup_define (nodup_define (nodup_updateFields update) _) _
  | db requestId row => exact List.Nodup.sublist (names_definedFields _) (by simp)

/-- No event holds a number. -/
theorem numbers_data (sent : Sent) : numbers sent.data = [] := by
  cases sent with
  | timedOut => simp [Sent.data, numbers, numbersOfFields]
  | event sent => rw [Sent.data, numbers, numbersOfFields_of_textual (textual_dataFields sent.data)]

variable (numberText : JsNumber → String)

theorem oneLine_data (sent : Sent) : OneLine (stringify numberText sent.data) := by
  refine (printable_stringify sent.data fun n hn => ?_).oneLine
  rw [numbers_data] at hn
  cases hn

/-- The client parses the data of an event to what was sent. -/
theorem parse_data (number : String → JsNumber) (sent : Sent) :
    parse number (stringify numberText sent.data) = some sent.data := by
  cases sent with
  | timedOut =>
      refine parse_textual number numberText (by simp) fun field hfield => ?_
      rw [List.mem_singleton.mp hfield]
      exact .inr ⟨_, rfl⟩
  | event sent => exact parse_textual number numberText (nodup_dataFields sent.data) (textual_dataFields sent.data)

end Data

/-! ### What every run has written -/

variable {numberText : JsNumber → String} {id : String} {sents : List Sent}
  {connection connection' : StreamConnection}

/-- The text is made of frames, which say what was sent. The end of the time limit is sent last, and not
after a terminal event. -/
structure Tells (numberText : JsNumber → String) (sents : List Sent) (connection : StreamConnection) :
    Prop where
  frames : ∃ frames, (∀ frame ∈ frames, frame.Clean) ∧ connection.written = written frames ∧
    frames.filterMap Frame.message? = sents.map (Sent.message numberText)
  ended : .timedOut ∈ sents → connection.ended = true
  settled : (∃ sent ∈ sents, sent.Terminal) → connection.timeLimit = false
  order : ∀ before after, sents = before ++ .timedOut :: after →
    after = [] ∧ ∀ sent ∈ before, ¬ sent.Terminal

theorem written_append (frames : List Frame) (frame : Frame) :
    written (frames ++ [frame]) = written frames ++ frame.text.toList := by
  simp [written]

/-- A name that `send` can print on its line, and that is not empty. -/
def Sent.Named (sent : Sent) : Prop := OneLine sent.name ∧ sent.name ≠ ""

theorem Sent.Named.message {sent : Sent} (h : sent.Named) (numberText : JsNumber → String) :
    (sent.frame numberText).Clean ∧
      (sent.frame numberText).message? = some (sent.message numberText) := by
  refine ⟨⟨h.1, oneLine_data numberText sent⟩, ?_⟩
  rw [Sent.frame, Frame.message?, typeOf, if_neg h.2]
  rfl

theorem Tells.quiet (h : Tells numberText sents connection)
    (hwritten : connection'.written = connection.written)
    (hended : connection.ended = true → connection'.ended = true)
    (hlimit : connection.timeLimit = false → connection'.timeLimit = false) :
    Tells numberText sents connection' where
  frames := by
    rw [hwritten]
    exact h.frames
  ended hsent := hended (h.ended hsent)
  settled hterminal := hlimit (h.settled hterminal)
  order := h.order

theorem Tells.heartbeat (h : Tells numberText sents connection) :
    Tells numberText sents (connection.write heartbeatFrame) where
  frames := by
    obtain ⟨frames, hclean, hwritten, hmessages⟩ := h.frames
    refine ⟨frames ++ [heartbeatFrame], fun frame hframe => ?_, ?_, ?_⟩
    · rcases List.mem_append.mp hframe with hframe | hframe
      · exact hclean frame hframe
      · rw [List.mem_singleton.mp hframe]
        exact (by decide : OneLine " heartbeat")
    · rw [written_append, ← hwritten]
      rfl
    · rw [List.filterMap_append, hmessages]
      exact List.append_nil _
  ended := h.ended
  settled := h.settled
  order := h.order

/-- An event is written to a stream that has not ended. -/
theorem Tells.send {sent : Sent} (h : Tells numberText sents connection) (hnamed : sent.Named)
    (hopen : connection.ended = false)
    (hwritten : connection'.written = (connection.write (sent.frame numberText)).written)
    (hended : sent = .timedOut → connection'.ended = true ∧ connection.timeLimit = true)
    (hlimit : connection.timeLimit = false ∨ sent.Terminal → connection'.timeLimit = false) :
    Tells numberText (sents ++ [sent]) connection' where
  frames := by
    obtain ⟨hcleanSent, hmessage⟩ := hnamed.message numberText
    obtain ⟨frames, hclean, hbefore, hmessages⟩ := h.frames
    refine ⟨frames ++ [sent.frame numberText], fun frame hframe => ?_, ?_, ?_⟩
    · rcases List.mem_append.mp hframe with hframe | hframe
      · exact hclean frame hframe
      · rw [List.mem_singleton.mp hframe]
        exact hcleanSent
    · rw [hwritten, written_append, ← hbefore]
      rfl
    · rw [List.filterMap_append, hmessages, List.map_append]
      simp [hmessage]
  ended hmem := by
    rcases List.mem_append.mp hmem with hmem | hmem
    · rw [h.ended hmem] at hopen
      cases hopen
    · exact (hended (List.mem_singleton.mp hmem).symm).1
  settled := by
    rintro ⟨other, hother, hterminal⟩
    rcases List.mem_append.mp hother with hother | hother
    · exact hlimit (.inl (h.settled ⟨other, hother, hterminal⟩))
    · rw [List.mem_singleton.mp hother] at hterminal
      exact hlimit (.inr hterminal)
  order before after heq := by
    have hbefore : .timedOut ∉ sents := fun hmem => by
      rw [h.ended hmem] at hopen
      cases hopen
    obtain rfl | ⟨after, last, rfl⟩ := List.eq_nil_or_concat after
    · obtain ⟨rfl, hlast⟩ := List.append_inj' heq rfl
      obtain rfl := (List.cons.inj hlast).1
      refine ⟨rfl, fun other hother hterminal => ?_⟩
      have hlimit := h.settled ⟨other, hother, hterminal⟩
      rw [(hended rfl).2] at hlimit
      cases hlimit
    · rw [List.concat_eq_append, ← List.cons_append, ← List.append_assoc] at heq
      obtain ⟨rfl, -⟩ := List.append_inj' heq rfl
      exact absurd (List.mem_append_right _ List.mem_cons_self) hbefore

theorem Tells.sendTo {sent : Sent} (h : Tells numberText sents connection) (hnamed : sent.Named)
    (hnot : sent ≠ .timedOut) {heartbeat timeLimit : Bool} {closing : Nat} {subscription : Subscription}
    {ended : Bool} (hended : connection.ended = true → ended = true)
    (hlimit : connection.timeLimit = false ∨ sent.Terminal → timeLimit = false) :
    Tells numberText (sents ++ (connection.send numberText sent).1.toList)
      ⟨heartbeat, timeLimit, closing, subscription, ended,
        (connection.send numberText sent).2.written⟩ := by
  cases hopen : connection.ended with
  | true =>
      rw [StreamConnection.send, hopen, if_pos rfl]
      simp only [Option.toList_none, List.append_nil]
      exact h.quiet rfl hended fun hoff => hlimit (.inl hoff)
  | false =>
      rw [StreamConnection.send, hopen, if_neg Bool.false_ne_true]
      exact h.send hnamed hopen rfl (fun heq => absurd heq hnot) hlimit

theorem named_update {update : SettlementUpdate} (h : update.status ∈ publishedStatuses) :
    (Sent.event ⟨some update.status, .realtime id update⟩).Named := by
  have hall : ∀ status ∈ publishedStatuses, OneLine status ∧ status ≠ "" := by decide
  exact hall update.status h

theorem Tells.callback (h : Tells numberText sents connection) {update : SettlementUpdate}
    (hpublished : update.status ∈ publishedStatuses) :
    Tells numberText (sents ++ (connection.callback numberText id update).1.toList)
      (connection.callback numberText id update).2 := by
  have hkeeps : ∀ sent, ((connection.send numberText sent).2.ended = connection.ended) ∧
      (connection.send numberText sent).2.timeLimit = connection.timeLimit := by
    intro sent
    rw [StreamConnection.send]
    split <;> exact ⟨rfl, rfl⟩
  rw [StreamConnection.callback]
  split
  · exact h.sendTo (named_update hpublished) nofun (fun hended => (hkeeps _).1.trans hended) fun _ => rfl
  · rename_i hterminal
    refine h.sendTo (named_update hpublished) nofun (fun hended => (hkeeps _).1.trans hended) ?_
    rintro (hoff | hterm)
    · exact (hkeeps _).2.trans hoff
    · exact absurd (List.contains_iff_mem.mpr hterm) hterminal

theorem Tells.timeUp (h : Tells numberText sents connection) (hruns : connection.timeLimit = true) :
    Tells numberText (sents ++ (connection.serve numberText id .timeLimit).1.toList)
      (connection.serve numberText id .timeLimit).2 := by
  have hnamed : Sent.timedOut.Named := ⟨by decide, by decide⟩
  rw [StreamConnection.serve, if_pos hruns]
  cases hopen : connection.ended with
  | true =>
      simp only [StreamConnection.send, if_true, Option.toList_none, List.append_nil]
      exact h.quiet rfl (fun _ => rfl) fun _ => rfl
  | false =>
      simp only [StreamConnection.send, Bool.false_eq_true, if_false]
      exact h.send hnamed hopen rfl (fun _ => ⟨rfl, hruns⟩) fun _ => rfl

theorem Tells.step (h : Tells numberText sents connection) {log : Log StreamMove (Option Sent)}
    {move : StreamMove} (hmove : Publishes log connection move) :
    Tells numberText (sents ++ (connection.serve numberText id move).1.toList)
      (connection.serve numberText id move).2 := by
  have hsame : Tells numberText (sents ++ (none : Option Sent).toList) connection := by
    simpa using h
  cases move with
  | subscribed =>
      rw [StreamConnection.serve]
      split
      · exact hsame.quiet rfl (fun h => h) fun h => h
      · exact hsame
  | update update =>
      rw [StreamConnection.serve]
      split
      · exact h.callback hmove
      · exact hsame
  | heartbeat =>
      rw [StreamConnection.serve]
      split
      · split
        · exact hsame.quiet rfl (fun h => h) fun h => h
        · exact hsame.heartbeat
      · exact hsame
  | timeLimit =>
      cases hruns : connection.timeLimit with
      | true => exact h.timeUp hruns
      | false =>
          rw [StreamConnection.serve, if_neg (by rw [hruns]; exact Bool.false_ne_true)]
          exact hsame
  | flushed =>
      rw [StreamConnection.serve]
      split
      · exact hsame.quiet rfl (fun _ => rfl) fun h => h
      · exact hsame
  | disconnect =>
      rw [StreamConnection.serve]
      split
      · exact hsame.quiet rfl (fun h => h) fun _ => rfl
      · exact hsame

theorem named_dbEvent (row : SettlementRow) : (Sent.event (dbEvent id row)).Named := by
  have hall : ∀ status, OneLine ((statusMap.lookup status).getD "undefined") ∧
      (statusMap.lookup status).getD "undefined" ≠ "" := by
    intro status
    cases status <;> decide
  exact hall row.settlementStatus

theorem tells_connect (row : Option SettlementRow) :
    Tells numberText (StreamConnection.connect numberText id row).1.toList
      (StreamConnection.connect numberText id row).2 := by
  have hnothing : ∀ heartbeat timeLimit closing subscription,
      Tells numberText [] ⟨heartbeat, timeLimit, closing, subscription, false, []⟩ := fun _ _ _ _ =>
    { frames := ⟨[], by simp, rfl, rfl⟩
      ended := nofun
      settled := nofun
      order := by
        intro before after heq
        simp at heq }
  cases row with
  | none => exact hnothing _ _ _ _
  | some row =>
      rw [StreamConnection.connect]
      split
      · exact (hnothing _ _ _ _).sendTo (named_dbEvent row) nofun (fun _ => rfl) fun _ => rfl
      · rename_i hpending
        refine (hnothing true true 0 .waiting).sendTo (named_dbEvent row) nofun nofun ?_
        rintro (hoff | hterminal)
        · cases hoff
        · simp only [ne_eq, Decidable.not_not] at hpending
          rw [Sent.Terminal, Sent.name, dbEvent, hpending] at hterminal
          exact absurd hterminal
            (by decide : (statusMap.lookup .pending).getD "undefined" ∉ terminalEvents)

theorem written_of_ended (hended : connection.ended = true) (move : StreamMove) :
    (connection.serve numberText id move).2.ended = true ∧
      (connection.serve numberText id move).2.written = connection.written := by
  have hsend : ∀ connection : StreamConnection, connection.ended = true → ∀ sent,
      connection.send numberText sent = (none, connection) := fun connection hended sent => by
    rw [StreamConnection.send, hended, if_pos rfl]
  cases move with
  | subscribed =>
      rw [StreamConnection.serve]
      split <;> exact ⟨hended, rfl⟩
  | disconnect =>
      rw [StreamConnection.serve]
      split <;> exact ⟨hended, rfl⟩
  | flushed =>
      rw [StreamConnection.serve]
      split
      · exact ⟨rfl, rfl⟩
      · exact ⟨hended, rfl⟩
  | heartbeat =>
      rw [StreamConnection.serve]
      split <;> exact ⟨hended, rfl⟩
  | timeLimit =>
      rw [StreamConnection.serve]
      split
      · rw [hsend { connection with heartbeat := false, timeLimit := false } hended]
        exact ⟨rfl, rfl⟩
      · exact ⟨hended, rfl⟩
  | update update =>
      rw [StreamConnection.serve]
      split
      · rw [StreamConnection.callback, hsend _ hended]
        split <;> exact ⟨hended, rfl⟩
      · exact ⟨hended, rfl⟩

/-- **A stream is read as it was sent.** In every run of a connection, whatever the timers and the client
do, a client that has received any part of the text has dispatched some first events of those sent, and all
of them when it has received the whole. It parses the data of each to the object that was sent. The end of
the time limit is told last, and never after a terminal event; a stream that has ended is not written to. -/
theorem stream_read (number : String → JsNumber) (row : Option SettlementRow)
    {log : Log StreamMove (Option Sent)}
    (hrun : Run (StreamConnection.serve numberText id) Publishes
      (StreamConnection.connect numberText id row).2 log connection) :
    let sents := sentOver (StreamConnection.connect numberText id row).1 log
    (∀ arrived, arrived <+: connection.written →
      messages arrived <+: sents.map (Sent.message numberText)) ∧
    messages connection.written = sents.map (Sent.message numberText) ∧
    (∀ sent ∈ sents, parse number (sent.message numberText).data = some sent.data) ∧
    (∀ before after, sents = before ++ .timedOut :: after →
      after = [] ∧ ∀ sent ∈ before, ¬ sent.Terminal) ∧
    ∀ later connection', connection.ended = true →
      Run (StreamConnection.serve numberText id) anyRequest connection later connection' →
        connection'.written = connection.written := by
  intro sents
  have htells : Tells numberText sents connection := by
    refine hrun.invariant (I := fun log connection => Tells numberText
      (sentOver (StreamConnection.connect numberText id row).1 log) connection) ?_ ?_
    · have hconnect : Tells numberText (StreamConnection.connect numberText id row).1.toList _ :=
        tells_connect row
      simpa [sentOver] using hconnect
    · intro log connection move htells hmove
      rw [sentOver_cons]
      exact htells.step hmove
  obtain ⟨frames, hclean, hwritten, hmessages⟩ := htells.frames
  have hall : messages connection.written = sents.map (Sent.message numberText) := by
    rw [hwritten, messages_written hclean, hmessages]
  refine ⟨?_, hall, fun sent _ => parse_data numberText number sent, htells.order, ?_⟩
  · rintro arrived ⟨rest, hrest⟩
    rw [← hall, ← hrest, messages, messages, Reader.readAll_append]
    exact Reader.readAll_keeps _ rest
  · intro later connection' hended hlater
    exact (hlater.invariant (I := fun _ later => later.ended = true ∧
      later.written = connection.written) ⟨hended, rfl⟩ fun _ _ move hbefore _ =>
        ⟨(written_of_ended hbefore.1 move).1, (written_of_ended hbefore.1 move).2.trans hbefore.2⟩).2

def confirmedUpdate : SettlementUpdate :=
  ⟨"settlement.confirmed", some "0x01", some "rec-0", none, "2026-01-01T00:00:00.000Z"⟩

/-- A pending row is confirmed while the client listens; the newest move comes first. -/
def confirmedMoves : List StreamMove :=
  [.timeLimit, .flushed, .heartbeat, .update confirmedUpdate, .heartbeat, .subscribed, .heartbeat]

theorem stream_read_confirmed :
    let start := StreamConnection.connect (fun _ => "0") "req-0" (some ⟨.pending, none, none⟩)
    let run := served (StreamConnection.serve (fun _ => "0") "req-0") start.2 confirmedMoves
    (messages run.2.written).map (·.type) = ["settlement.pending", "settlement.confirmed"] := by
  intro start run
  have hrun : Run (StreamConnection.serve (fun _ => "0") "req-0") Publishes start.2 run.1 run.2 := by
    refine run_served ⟨⟨⟨⟨⟨⟨⟨trivial, trivial⟩, trivial⟩, trivial⟩, ?_⟩, trivial⟩, trivial⟩, trivial⟩
    exact (by decide : confirmedUpdate.status ∈ publishedStatuses)
  rw [(stream_read (fun _ => .int 0) _ hrun).2.1, List.map_map]
  decide

end Stream

end FacilitatorX402
