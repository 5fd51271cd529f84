import WebServer.Proofs.WebSocket.Listening

/-!
# Messages in fragments

A client may cut a message into fragments and send pings and pongs between them. The conversation
gathers the fragments and hands the whole message over behind the control frames that came in
between. `messages_reassembled` is about a client that sends any such frames, masked with any keys,
and about any pieces in which the stream of them arrives.
-/
namespace WebServer.WebSocket

variable {ε σ : Type}

/-- A control frame that does not close. -/
inductive Control where
  | ping (payload : Bytes)
  | pong (payload : Bytes)
  deriving DecidableEq, Repr

namespace Control

def payload : Control → Bytes
  | .ping payload | .pong payload => payload

def frame : Control → Frame
  | .ping payload => ⟨true, .ping, payload⟩
  | .pong payload => ⟨true, .pong, payload⟩

def callback : Control → Callback
  | .ping payload => .ping payload
  | .pong payload => .pong payload

/-- A control frame whose payload is short enough for its kind and for the limit. -/
def Fits (limit : Nat) (control : Control) : Prop :=
  control.payload.length ≤ min controlLimit limit

end Control

namespace Message

def opcode : Message → Opcode
  | .text _ => .text
  | .binary _ => .binary

def bytes : Message → Bytes
  | .text content => Text.encode content
  | .binary data => data

theorem toMessage_bytes (message : Message) :
    Conversation.toMessage message.opcode message.bytes = .ok message := by
  cases message with
  | text content =>
    have read : Text.decode? (bytes (.text content)) = some content := Text.decode?_encode content
    simp [Conversation.toMessage, opcode, read]
  | binary data => rfl

end Message

/-- A message in fragments: the first one, and the others, each with the control frames in front of
it. -/
structure Parcel where
  message : Message
  first : Bytes
  others : List (List Control × Bytes)
  joined : first ++ others.flatMap Prod.snd = message.bytes

namespace Parcel

/-- The frames of the fragments behind the first one. -/
def framesBehind : List (List Control × Bytes) → List Frame
  | [] => []
  | (controls, payload) :: others =>
    controls.map Control.frame ++ ⟨others.isEmpty, .continuation, payload⟩ :: framesBehind others

def frames (parcel : Parcel) : List Frame :=
  ⟨parcel.others.isEmpty, parcel.message.opcode, parcel.first⟩ :: framesBehind parcel.others

/-- The control frames within the message. -/
def controls (parcel : Parcel) : List Control := parcel.others.flatMap Prod.fst

end Parcel

/-- What a client sends. -/
inductive Item where
  | control (control : Control)
  | message (parcel : Parcel)

namespace Item

def frames : Item → List Frame
  | .control sent => [sent.frame]
  | .message parcel => parcel.frames

/-- What the handler is to hear of it. The message is whole behind its last fragment. -/
def callbacks : Item → List Callback
  | .control sent => [sent.callback]
  | .message parcel => parcel.controls.map Control.callback ++ [.message parcel.message]

/-- A message within the limit, with control frames that fit. -/
def Fits (limit : Nat) : Item → Prop
  | .control sent => sent.Fits limit
  | .message parcel =>
    parcel.message.bytes.length ≤ limit ∧ ∀ control ∈ parcel.controls, control.Fits limit

end Item

variable {react : React ε σ} {c : Conversation ε σ}

/-- The handler hears of frames with these callbacks, and of nothing else. Then the message in
progress is `after`. -/
def Conversation.Hears (react : React ε σ) (c : Conversation ε σ) (frames : List Frame)
    (callbacks : List Callback) (after : Option (Opcode × Bytes)) : Prop :=
  ∃ turns c', Listens react c frames turns c' ∧ turns.map Turn.callback = callbacks ∧
    c'.assembling = after

theorem Conversation.hears_nil (react : React ε σ) (c : Conversation ε σ) :
    c.Hears react [] [] c.assembling :=
  ⟨[], c, .done c, rfl, rfl⟩

/-- What is heard of frames is heard of the first ones and then of the others. -/
theorem Conversation.hears_append {frames others : List Frame} {callbacks more : List Callback}
    {between after : Option (Opcode × Bytes)} (h : c.Hears react frames callbacks between)
    (h' : ∀ c' : Conversation ε σ, c'.socket.session.closing = c.socket.session.closing →
      c'.limit = c.limit → c'.assembling = between → c'.Hears react others more after) :
    c.Hears react (frames ++ others) (callbacks ++ more) after := by
  obtain ⟨turns, c', listens, heard, reached⟩ := h
  obtain ⟨later, c'', listens', heard', reached'⟩ :=
    h' c' listens.heard.closing_eq listens.heard.limit_eq reached
  refine ⟨turns ++ later, c'', listens.trans listens', ?_, reached'⟩
  rw [List.map_append, heard, heard']

namespace Conversation

/-- A fragment behind the first one is added to the message in progress. -/
theorem onFrame_continuation (react : React ε σ) {opcode : Opcode} {done : Bytes}
    (assembling : c.assembling = some (opcode, done)) (fin : Bool) (payload : Bytes) :
    c.onFrame react ⟨fin, .continuation, payload⟩ = c.gather react opcode done payload fin := by
  obtain ⟨socket, handler, _, limit, told⟩ := c
  obtain rfl := assembling
  rfl

/-- A frame with a message, or with the first fragment of one. -/
theorem onFrame_message (react : React ε σ) (idle : c.assembling = none) (message : Message)
    (fin : Bool) (payload : Bytes) :
    c.onFrame react ⟨fin, message.opcode, payload⟩ =
      if fin then c.deliver react message.opcode payload
      else c.gather react message.opcode [] payload false := by
  obtain ⟨socket, handler, _, limit, told⟩ := c
  obtain rfl := idle
  cases message <;> rfl

theorem gather_of_le (react : React ε σ) (opcode : Opcode) {done payload : Bytes}
    (within : done.length + payload.length ≤ c.limit) (fin : Bool) :
    c.gather react opcode done payload fin =
      if fin then deliver react { c with assembling := none } opcode (done ++ payload)
      else { c with assembling := some (opcode, done ++ payload) } :=
  if_neg (Nat.not_lt.2 within)

end Conversation

theorem Message.lawful (message : Message) (fin : Bool) (payload : Bytes) :
    Frame.Lawful ⟨fin, message.opcode, payload⟩ := by
  cases message <;> exact .of_data rfl

/-- A fragment that is not the last one is kept. -/
theorem hears_fragment (react : React ε σ) {opcode : Opcode} {done payload : Bytes}
    (assembling : c.assembling = some (opcode, done))
    (within : done.length + payload.length ≤ c.limit) :
    c.Hears react [⟨false, .continuation, payload⟩] [] (some (opcode, done ++ payload)) := by
  have gathered : c.onFrame react ⟨false, .continuation, payload⟩ =
      { c with assembling := some (opcode, done ++ payload) } :=
    (c.onFrame_continuation react assembling false payload).trans (c.gather_of_le react _ within _)
  have heard : Heard react c [] (c.onFrame react ⟨false, .continuation, payload⟩) := by
    rw [gathered]
    exact .silence rfl rfl rfl
  have fits : payload.length ≤ c.limit := by omega
  exact ⟨_, _, .single (.of_data rfl) fits heard, rfl, by rw [gathered]⟩

/-- So is the first one. -/
theorem hears_first (react : React ε σ) (idle : c.assembling = none) {message : Message}
    {payload : Bytes} (within : payload.length ≤ c.limit) :
    c.Hears react [⟨false, message.opcode, payload⟩] [] (some (message.opcode, payload)) := by
  have fits : ([] : Bytes).length + payload.length ≤ c.limit := by
    rwa [List.length_nil, Nat.zero_add]
  have gathered : c.onFrame react ⟨false, message.opcode, payload⟩ =
      { c with assembling := some (message.opcode, payload) } :=
    (c.onFrame_message react idle message false payload).trans (c.gather_of_le react _ fits _)
  have heard : Heard react c [] (c.onFrame react ⟨false, message.opcode, payload⟩) := by
    rw [gathered]
    exact .silence rfl rfl rfl
  exact ⟨_, _, .single (message.lawful _ _) within heard, rfl, by rw [gathered]⟩

section

variable (gentle : react.Gentle) (opened : c.socket.session.closing = false)
include gentle opened

theorem hears_control {control : Control} (fits : control.Fits c.limit) :
    c.Hears react [control.frame] [control.callback] c.assembling := by
  obtain ⟨short, within⟩ := Nat.le_min.1 fits
  cases control with
  | ping payload =>
    have isShort : ∀ other, Callback.ping payload = .ping other → other.length ≤ controlLimit := by
      rintro _ ⟨⟩
      exact short
    obtain ⟨deeds, heard, same⟩ := Conversation.heard_call gentle opened rfl isShort
    exact ⟨_, _, .single (fun _ => ⟨rfl, short⟩) within heard, rfl, same⟩
  | pong payload =>
    have received : Heard react c [] { c with socket := c.socket.pongReceived } :=
      .silence rfl rfl rfl
    have noPing : ∀ other, Callback.pong payload = .ping other → other.length ≤ controlLimit :=
      nofun
    obtain ⟨deeds, heard, same⟩ :=
      Conversation.heard_call gentle (received.closing_eq.trans opened) rfl noPing
    exact ⟨_, _, .single (fun _ => ⟨rfl, short⟩) within (received.trans heard), rfl, same⟩

theorem hears_controls {controls : List Control}
    (fit : ∀ control ∈ controls, control.Fits c.limit) :
    c.Hears react (controls.map Control.frame) (controls.map Control.callback) c.assembling := by
  induction controls generalizing c with
  | nil => exact Conversation.hears_nil react c
  | cons control controls ih =>
    obtain ⟨fits, others⟩ := List.forall_mem_cons.1 fit
    refine Conversation.hears_append (hears_control gentle opened fits)
      fun c' closing limit same => ?_
    rw [← same]
    exact ih (closing.trans opened) (by rwa [limit])

/-- With its last fragment a message is whole, and the handler hears of it. -/
theorem hears_last {message : Message} {done payload : Bytes}
    (assembling : c.assembling = some (message.opcode, done))
    (joined : done ++ payload = message.bytes) (within : message.bytes.length ≤ c.limit) :
    c.Hears react [⟨true, .continuation, payload⟩] [.message message] none := by
  have fits : done.length + payload.length ≤ c.limit := by
    rwa [← List.length_append, joined]
  have gathered : c.onFrame react ⟨true, .continuation, payload⟩ =
      Conversation.deliver react { c with assembling := none } message.opcode message.bytes := by
    rw [c.onFrame_continuation react assembling, c.gather_of_le react _ fits, joined, if_pos rfl]
  have taken : Heard react c [] { c with assembling := none } := .silence rfl rfl rfl
  obtain ⟨deeds, heard, same⟩ := Conversation.heard_deliver gentle
    (taken.closing_eq.trans opened) message.toMessage_bytes
  rw [← gathered] at heard same
  have short : payload.length ≤ c.limit := by omega
  exact ⟨_, _, .single (.of_data rfl) short (taken.trans heard), rfl, same⟩

/-- A message in one frame. -/
theorem hears_whole (idle : c.assembling = none) {message : Message}
    (within : message.bytes.length ≤ c.limit) :
    c.Hears react [⟨true, message.opcode, message.bytes⟩] [.message message] none := by
  have delivered : c.onFrame react ⟨true, message.opcode, message.bytes⟩ =
      c.deliver react message.opcode message.bytes := c.onFrame_message react idle message true _
  obtain ⟨deeds, heard, same⟩ := Conversation.heard_deliver gentle opened message.toMessage_bytes
  rw [← delivered] at heard same
  exact ⟨_, _, .single (message.lawful _ _) within heard, rfl, same.trans idle⟩

/-- The fragments behind the first one complete the message that is in progress. The induction is on
the fragments that are still to come; what has come of the message grows with each. -/
theorem hears_behind {message : Message} {done : Bytes}
    (assembling : c.assembling = some (message.opcode, done))
    {others : List (List Control × Bytes)} (more : others ≠ [])
    (joined : done ++ others.flatMap Prod.snd = message.bytes)
    (within : message.bytes.length ≤ c.limit)
    (fit : ∀ control ∈ others.flatMap Prod.fst, control.Fits c.limit) :
    c.Hears react (Parcel.framesBehind others)
      ((others.flatMap Prod.fst).map Control.callback ++ [.message message]) none := by
  induction others generalizing c done with
  | nil => exact absurd rfl more
  | cons fragment others ih =>
    obtain ⟨controls, payload⟩ := fragment
    simp only [List.flatMap_cons, List.forall_mem_append] at joined fit
    simp only [Parcel.framesBehind, List.flatMap_cons, List.map_append, List.append_assoc]
    refine Conversation.hears_append (hears_controls gentle opened fit.1)
      fun c' closing limit same => ?_
    have opened' := closing.trans opened
    have assembling' := same.trans assembling
    rw [← limit] at within
    -- Only the last fragment ends the message, so `others` decides what its frame says.
    cases others with
    | nil =>
      simp only [List.flatMap_nil, List.append_nil] at joined
      exact hears_last gentle opened' assembling' joined within
    | cons next others =>
      have fits : done.length + payload.length ≤ c'.limit := by
        rw [← joined, List.length_append, List.length_append] at within
        omega
      have kept := hears_fragment react assembling' fits
      refine Conversation.hears_append kept fun c'' closing' limit' same' => ?_
      refine ih (closing'.trans opened') same' (List.cons_ne_nil _ _) ?_ ?_ ?_
      · rwa [List.append_assoc]
      · rwa [limit']
      · rw [limit', limit]
        exact fit.2

theorem hears_parcel (idle : c.assembling = none) {parcel : Parcel}
    (fits : (Item.message parcel).Fits c.limit) :
    c.Hears react parcel.frames (Item.message parcel).callbacks none := by
  obtain ⟨message, first, others, joined⟩ := parcel
  obtain ⟨within, controls⟩ := fits
  cases others with
  | nil =>
    simp only [List.flatMap_nil, List.append_nil] at joined
    subst joined
    exact hears_whole gentle opened idle within
  | cons fragment others =>
    have short : first.length ≤ c.limit := by
      rw [← joined, List.length_append] at within
      omega
    have kept : c.Hears react [⟨false, message.opcode, first⟩] [] (some (message.opcode, first)) :=
      hears_first react idle short
    refine Conversation.hears_append kept fun c' closing limit assembling => ?_
    refine hears_behind gentle (closing.trans opened) assembling (List.cons_ne_nil _ _) joined ?_ ?_
    · rwa [limit]
    · rwa [limit]

theorem hears_items (idle : c.assembling = none) {items : List Item}
    (fit : ∀ item ∈ items, item.Fits c.limit) :
    c.Hears react (items.flatMap Item.frames) (items.flatMap Item.callbacks) none := by
  induction items generalizing c with
  | nil => exact idle ▸ Conversation.hears_nil react c
  | cons item items ih =>
    obtain ⟨fits, others⟩ := List.forall_mem_cons.1 fit
    have first : c.Hears react item.frames item.callbacks none := by
      cases item with
      | control control => exact idle ▸ hears_control gentle opened fits
      | message parcel => exact hears_parcel gentle opened idle fits
    refine Conversation.hears_append first fun c' closing limit idle' => ?_
    exact ih (closing.trans opened) idle' (by rwa [limit])

end

/-- Shows a stream to a conversation piece by piece, each piece behind what was left of those
before. -/
def Conversation.feed (react : React ε σ) (c : Conversation ε σ) (left : Bytes) :
    List Bytes → Option Bytes × Conversation ε σ
  | [] => (some left, c)
  | piece :: pieces =>
    match c.takeFrames react (left ++ piece) with
    | (some left, c) => feed react c left pieces
    | (none, c) => (none, c)

/-- Pieces of a stream that is taken as a whole are taken, too, and to the same end. -/
theorem Conversation.feed_of_takeFrames {c' : Conversation ε σ} {left : Bytes} {pieces : List Bytes}
    (waits : c.takeFrames react left = (some left, c))
    (whole : c.takeFrames react (left ++ pieces.flatten) = (some [], c')) :
    c.feed react left pieces = (some [], c') := by
  induction pieces generalizing c left with
  | nil =>
    rw [List.flatten_nil, List.append_nil, waits] at whole
    rw [feed, whole]
  | cons piece pieces ih =>
    rw [List.flatten_cons, ← List.append_assoc, takeFrames_append] at whole
    have again := takeFrames_append react c (left ++ piece) []
    rw [List.append_nil] at again
    rw [feed]
    generalize c.takeFrames react (left ++ piece) = taken at whole again ⊢
    obtain ⟨_ | left', next⟩ := taken
    · cases whole
    · simp only [List.append_nil] at again
      exact ih again.symm whole

/-- For every stream of messages in any fragments, with pings and pongs between them, masked with
any keys, and for all pieces in which it arrives: a handler that neither closes nor panics is called
back with exactly the messages and the control frames, in their order. It answers as by default each
ping with one pong. All bytes are taken, and no message is left in progress. -/
theorem messages_reassembled {react : React ε σ} (gentle : react.Gentle) {c : Conversation ε σ}
    (opened : c.socket.session.closing = false) (idle : c.assembling = none)
    (word : c.limit < 2 ^ 64) {items : List Item} (fit : ∀ item ∈ items, item.Fits c.limit)
    {keyed : List (Frame × Bytes)} (frames : keyed.map Prod.fst = items.flatMap Item.frames)
    (keys : ∀ framed ∈ keyed, framed.2.length = 4) {pieces : List Bytes}
    (cut : pieces.flatten = clientStream keyed) :
    ∃ turns c', c.feed react [] pieces = (some [], c') ∧ Heard react c turns c' ∧
      turns.map Turn.callback = items.flatMap Item.callbacks ∧ c'.assembling = none := by
  obtain ⟨turns, c', listens, heard, idle'⟩ := hears_items gentle opened idle fit
  have whole := listens.takeFrames opened word frames keys
  rw [← cut] at whole
  have waits := Conversation.takeFrames_nil react opened
  exact ⟨turns, c', Conversation.feed_of_takeFrames waits whole, listens.heard, heard, idle'⟩

/-- A handler that leaves everything to the defaults, and so answers pings. -/
def listener : React Unit Unit := fun _ callback => match callback with
  | .ping payload => .pong payload ()
  | _ => .done ()

/-- A text that is cut within a character, with a ping in between and a pong behind it, arrives in
two pieces that are cut within a frame. -/
theorem cut_text_reassembled :
    let keyed : List (Frame × Bytes) := [(⟨false, .text, [0xC3]⟩, [1, 2, 3, 4]),
      (⟨true, .ping, [1]⟩, [0, 0, 0, 0]), (⟨false, .continuation, []⟩, [9, 9, 9, 9]),
      (⟨true, .continuation, [0xA9]⟩, [5, 6, 7, 8]), (⟨true, .pong, []⟩, [0, 1, 0, 1])]
    let stream := clientStream keyed
    let c : Conversation Unit Unit := { socket := { channel := {} }, handler := (), limit := 2 }
    listener.Pongs ∧
      ∃ turns c', c.feed listener [] [stream.take 10, stream.drop 10] = (some [], c') ∧
      Heard listener c turns c' ∧
      turns.map Turn.callback = [.ping [1], .message (.text "é"), .pong []] ∧
      c'.assembling = none := by
  intro keyed stream c
  let parcel : Parcel := ⟨.text "é", [0xC3], [([.ping [1]], []), ([], [0xA9])], by decide⟩
  have gentle : listener.Gentle := by
    rintro ⟨⟩ (_ | _ | payload | _ | _) -
    · trivial
    · trivial
    · exact ⟨rfl, fun _ => trivial⟩
    · trivial
    · trivial
  have fit : ∀ item ∈ [Item.message parcel, .control (.pong [])], item.Fits c.limit := by
    have within : (Text.encode "é").length ≤ 2 := by decide
    have ping : (Control.ping [1]).payload.length ≤ min controlLimit 2 := by decide
    have pong : (Control.pong []).payload.length ≤ min controlLimit 2 := Nat.zero_le _
    exact List.forall_mem_cons.2
      ⟨⟨within, List.forall_mem_singleton.2 ping⟩, List.forall_mem_singleton.2 pong⟩
  have frames : keyed.map Prod.fst =
      [Item.message parcel, .control (.pong [])].flatMap Item.frames := rfl
  have cut : [stream.take 10, stream.drop 10].flatten = clientStream keyed := by simp [stream]
  exact ⟨fun _ _ => rfl, messages_reassembled gentle rfl rfl (by decide) fit frames (by decide) cut⟩

end WebServer.WebSocket
