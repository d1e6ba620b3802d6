import Mathlib.Data.List.Basic
import Mathlib.Tactic.Common

/-!
# Event streams

How a client reads a `text/event-stream`, one character after the other. Lines end with a line feed, a
carriage return, or both; an empty line dispatches what the fields before it have collected; what is
left when the stream ends is dropped. Fields that concern the reconnection are read over.

A server that writes each event as one frame, of a type and data without line breaks, is understood:
whatever part of the text has arrived, the client has dispatched the events whose frames are complete.
-/

namespace EventStream

/-- An event as the listeners of the client see it. -/
structure Message where
  type : String
  data : String
  deriving DecidableEq

/-- Where a client stands: its line so far, whether a carriage return has just ended one, the buffers of
the event, and what it has dispatched. -/
structure Reader where
  line : List Char
  returned : Bool
  type : List Char
  data : List Char
  dispatched : List Message
  deriving DecidableEq

/-- What a listener is given when no type was sent. -/
def typeOf (type : String) : String := if type = "" then "message" else type

namespace Reader

/-- Between two events. -/
def ready (dispatched : List Message) : Reader := ⟨[], false, [], [], dispatched⟩

def field (reader : Reader) (name : String) (value : List Char) : Reader :=
  if name = "event" then { reader with type := value }
  else if name = "data" then { reader with data := reader.data ++ value ++ ['\n'] }
  else reader

/-- Without data there is no event. -/
def dispatch (reader : Reader) : Reader :=
  if reader.data = [] then { reader with type := [] }
  else
    { reader with
      type := []
      data := []
      dispatched := reader.dispatched ++
        [⟨typeOf (String.ofList reader.type), String.ofList reader.data.dropLast⟩] }

/-- The value of a field begins after the colon, and after one space. -/
def valueAfter (text : List Char) : List Char :=
  let value := text.drop 1
  if value.head? = some ' ' then value.drop 1 else value

def endLine (reader : Reader) : Reader :=
  let line := reader.line
  let reader := { reader with line := [] }
  if line = [] then reader.dispatch
  else if line.head? = some ':' then reader
  else reader.field (String.ofList (line.takeWhile (· ≠ ':')))
    (valueAfter (line.dropWhile (· ≠ ':')))

def read (reader : Reader) (c : Char) : Reader :=
  if c = '\n' then
    if reader.returned then { reader with returned := false } else reader.endLine
  else if c = '\r' then { reader.endLine with returned := true }
  else { reader with line := reader.line ++ [c], returned := false }

def readAll (reader : Reader) (text : List Char) : Reader := text.foldl read reader

@[simp]
theorem readAll_nil (reader : Reader) : reader.readAll [] = reader := rfl

@[simp]
theorem readAll_cons (reader : Reader) (c : Char) (text : List Char) :
    reader.readAll (c :: text) = (reader.read c).readAll text := rfl

@[simp]
theorem readAll_append (reader : Reader) (text text' : List Char) :
    reader.readAll (text ++ text') = (reader.readAll text).readAll text' :=
  List.foldl_append

end Reader

/-- What has been dispatched when this much has arrived. -/
def messages (text : List Char) : List Message := ((Reader.ready []).readAll text).dispatched

/-! ### Nothing is taken back -/

namespace Reader

variable {reader : Reader}

theorem dispatch_keeps (reader : Reader) : reader.dispatched <+: reader.dispatch.dispatched := by
  rw [dispatch]
  split
  · exact List.prefix_rfl
  · exact List.prefix_append _ _

theorem field_dispatched (reader : Reader) (name : String) (value : List Char) :
    (reader.field name value).dispatched = reader.dispatched := by
  rw [field]
  split
  · rfl
  · split <;> rfl

theorem field_keeps (reader : Reader) (name : String) (value : List Char) :
    reader.dispatched <+: (reader.field name value).dispatched :=
  ⟨[], by rw [List.append_nil, field_dispatched]⟩

theorem endLine_keeps (reader : Reader) : reader.dispatched <+: reader.endLine.dispatched := by
  simp only [endLine]
  split
  · exact dispatch_keeps { reader with line := [] }
  · split
    · exact List.prefix_rfl
    · exact field_keeps { reader with line := [] } _ _

theorem read_keeps (reader : Reader) (c : Char) :
    reader.dispatched <+: (reader.read c).dispatched := by
  rw [read]
  split
  · split
    · exact List.prefix_rfl
    · exact endLine_keeps reader
  · split
    · exact endLine_keeps reader
    · exact List.prefix_rfl

theorem readAll_keeps (reader : Reader) (text : List Char) :
    reader.dispatched <+: (reader.readAll text).dispatched := by
  induction text generalizing reader with
  | nil => exact List.prefix_rfl
  | cons c text ih => exact (read_keeps reader c).trans (ih (reader.read c))

/-! ### Lines -/

theorem readAll_line {text : List Char} (htext : ∀ c ∈ text, c ≠ '\n' ∧ c ≠ '\r')
    (hreturned : reader.returned = false) :
    reader.readAll text = { reader with line := reader.line ++ text } := by
  induction text generalizing reader with
  | nil => rw [readAll_nil, List.append_nil]
  | cons c text ih =>
      obtain ⟨hfeed, hreturn⟩ := htext c List.mem_cons_self
      rw [readAll_cons, read, if_neg hfeed, if_neg hreturn,
        ih (fun c hc => htext c (List.mem_cons_of_mem _ hc)) rfl, List.append_assoc]
      simp only [hreturned, List.singleton_append]

theorem read_lineFeed (hreturned : reader.returned = false) : reader.read '\n' = reader.endLine := by
  rw [read, if_pos rfl, if_neg (by rw [hreturned]; exact Bool.false_ne_true)]

/-- A name that can stand before the colon of a field. -/
def IsName (name : String) : Prop := name ≠ "" ∧ ∀ c ∈ name.toList, c ≠ ':' ∧ c ≠ '\n' ∧ c ≠ '\r'

instance (name : String) : Decidable (IsName name) :=
  @instDecidableAnd _ _ inferInstance (List.decidableBAll _ _)

/-- A field, as it is written. -/
def fieldText (name value : String) : List Char := name.toList ++ ':' :: ' ' :: value.toList

theorem endLine_field {name value : String} (hname : IsName name)
    (hline : reader.line = fieldText name value) :
    reader.endLine = { reader with line := [] }.field name value.toList := by
  obtain ⟨c, rest, hcons⟩ := List.exists_cons_of_ne_nil
    (show name.toList ≠ [] from fun hnil => hname.1 (String.toList_eq_nil_iff.mp hnil))
  have hcolon : ∀ c ∈ name.toList, decide (c ≠ ':') = true := fun c hc =>
    decide_eq_true (hname.2 c hc).1
  have hhead : (fieldText name value).head? ≠ some ':' := by
    rw [fieldText, hcons, List.cons_append, List.head?_cons]
    exact fun heq => (hname.2 c (hcons ▸ List.mem_cons_self)).1 (Option.some.inj heq)
  have htake : (fieldText name value).takeWhile (· ≠ ':') = name.toList := by
    rw [fieldText, List.takeWhile_append_of_pos hcolon]
    simp
  have hdrop : (fieldText name value).dropWhile (· ≠ ':') = ':' :: ' ' :: value.toList := by
    rw [fieldText, List.dropWhile_append_of_pos hcolon]
    simp
  simp only [endLine, hline]
  rw [if_neg (by simp [fieldText]), if_neg hhead, htake, hdrop, String.ofList_toList]
  simp [valueAfter]

/-- A client that reads a whole field. -/
theorem readAll_field {name value : String} (hname : IsName name)
    (hvalue : ∀ c ∈ value.toList, c ≠ '\n' ∧ c ≠ '\r') (hreturned : reader.returned = false)
    (hline : reader.line = []) :
    reader.readAll (fieldText name value ++ ['\n']) = reader.field name value.toList := by
  have hclean : ∀ c ∈ fieldText name value, c ≠ '\n' ∧ c ≠ '\r' := by
    intro c hc
    rcases List.mem_append.mp hc with hc | hc
    · exact (hname.2 c hc).2
    · rcases List.mem_cons.mp hc with rfl | hc
      · decide
      · rcases List.mem_cons.mp hc with rfl | hc
        · decide
        · exact hvalue c hc
  obtain ⟨line, returned, type, data, dispatched⟩ := reader
  cases hline
  cases hreturned
  rw [readAll_append, readAll_line hclean rfl, List.nil_append, readAll_cons, readAll_nil,
    read_lineFeed rfl, endLine_field hname rfl]

end Reader

/-! ### Frames -/

/-- What a server writes at once. -/
inductive Frame where
  | event (type data : String)
  | comment (text : String)
  deriving DecidableEq

/-- A text on one line. -/
def OneLine (text : String) : Prop := ∀ c ∈ text.toList, c ≠ '\n' ∧ c ≠ '\r'

instance (text : String) : Decidable (OneLine text) :=
  List.decidableBAll _ _

namespace Frame

def text : Frame → String
  | event type data => "event: " ++ type ++ "\ndata: " ++ data ++ "\n\n"
  | comment text => ":" ++ text ++ "\n\n"

def Clean : Frame → Prop
  | event type data => OneLine type ∧ OneLine data
  | comment text => OneLine text

/-- What a client dispatches for it. -/
def message? : Frame → Option Message
  | event type data => some ⟨typeOf type, data⟩
  | comment _ => none

/-- The frame but for the line feed that ends it. -/
def head : Frame → List Char
  | event type data =>
      (Reader.fieldText "event" type ++ ['\n']) ++ (Reader.fieldText "data" data ++ ['\n'])
  | comment text => ':' :: text.toList ++ ['\n']

theorem toList_text (frame : Frame) : frame.text.toList = frame.head ++ ['\n'] := by
  cases frame with
  | event type data => simp [text, head, Reader.fieldText]
  | comment text => simp [Frame.text, head]

end Frame

/-- What a server has written. -/
def written (frames : List Frame) : List Char := frames.flatMap fun frame => frame.text.toList

@[simp]
theorem written_nil : written [] = [] := rfl

@[simp]
theorem written_cons (frame : Frame) (frames : List Frame) :
    written (frame :: frames) = frame.text.toList ++ written frames := List.flatMap_cons

namespace Reader

/-- Where the client stands before the last line feed of a frame. -/
def waiting (dispatched : List Message) : Frame → Reader
  | .event type data => ⟨[], false, type.toList, data.toList ++ ['\n'], dispatched⟩
  | .comment _ => ready dispatched

theorem readAll_head {frame : Frame} (h : frame.Clean) (dispatched : List Message) :
    (ready dispatched).readAll frame.head = waiting dispatched frame := by
  cases frame with
  | event type data =>
      rw [Frame.head, readAll_append, readAll_field (by decide) h.1 rfl rfl,
        readAll_field (by decide) h.2 rfl rfl]
      simp [field, ready, waiting]
  | comment text =>
      have hline : ∀ c ∈ ':' :: text.toList, c ≠ '\n' ∧ c ≠ '\r' := by
        intro c hc
        rcases List.mem_cons.mp hc with rfl | hc
        · decide
        · exact h c hc
      rw [Frame.head, readAll_append, readAll_line hline rfl, readAll_cons, readAll_nil,
        read_lineFeed rfl]
      simp [endLine, ready, waiting]

theorem read_waiting (dispatched : List Message) (frame : Frame) :
    (waiting dispatched frame).read '\n' = ready (dispatched ++ frame.message?.toList) := by
  cases frame with
  | event type data => simp [waiting, read, endLine, dispatch, ready, Frame.message?]
  | comment text => simp [waiting, read, endLine, dispatch, ready, Frame.message?]

theorem readAll_frame {frame : Frame} (h : frame.Clean) (dispatched : List Message) :
    (ready dispatched).readAll frame.text.toList = ready (dispatched ++ frame.message?.toList) := by
  rw [frame.toList_text, readAll_append, readAll_head h, readAll_cons, read_waiting, readAll_nil]

theorem readAll_written {frames : List Frame} (h : ∀ frame ∈ frames, frame.Clean)
    (dispatched : List Message) :
    (ready dispatched).readAll (written frames) =
      ready (dispatched ++ frames.filterMap Frame.message?) := by
  induction frames generalizing dispatched with
  | nil => simp [written]
  | cons frame frames ih =>
      have hframes : ∀ other ∈ frames, other.Clean := fun other hother =>
        h other (List.mem_cons_of_mem _ hother)
      rw [written_cons, readAll_append,
        readAll_frame (h frame List.mem_cons_self), ih hframes, List.append_assoc]
      congr 2
      cases hmessage : frame.message? <;> simp [hmessage]

end Reader

/-- **Frames are read back.** -/
theorem messages_written {frames : List Frame} (h : ∀ frame ∈ frames, frame.Clean) :
    messages (written frames) = frames.filterMap Frame.message? := by
  rw [messages, Reader.readAll_written h]
  rfl

end EventStream
