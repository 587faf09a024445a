import MirrorLink.Interface.ServerHandshake

/-!
# What a server is sent

The messages of a client, each with the length that its first bytes give it, and the server's
reader of them.  The reader goes by the type of a message and the counts in it and by nothing
else, so that a client is only understood if every message is as long as it says
(`readClientMessages_bytes`).

A stream begins with the version, the security type that is chosen, and ClientInit
(`ClientStream`); the session may end before any of them.  `Conversation` says which messages
may follow.
-/

set_option autoImplicit false

namespace MirrorLink.Program

open MirrorLink.Library

/-! ## Messages -/

/-- A message of a client. -/
inductive ClientMessage where
  /-- Three bytes of padding and the format. -/
  | setPixelFormat (format : List UInt8) (length : format.length = 16)
  | setEncodings (encodings : List UInt32) (count : encodings.length < 2 ^ 16)
  | framebufferUpdateRequest (incremental : UInt8) (x y w h : UInt16)
  /-- A MirrorLink extension message. -/
  | extension (etype : UInt8) (payload : List UInt8) (length : payload.length < 2 ^ 16)
  deriving DecidableEq, Repr

def ClientMessage.bytes : ClientMessage → List UInt8
  | setPixelFormat format _ => [0, 0, 0, 0] ++ format
  | setEncodings encodings _ =>
    [2, 0] ++ be16Bytes (UInt16.ofNat encodings.length) ++ encodings.flatMap be32Bytes
  | framebufferUpdateRequest incremental x y w h =>
    [3, incremental] ++ be16Bytes x ++ be16Bytes y ++ be16Bytes w ++ be16Bytes h
  | extension etype payload _ =>
    [128, etype] ++ be16Bytes (UInt16.ofNat payload.length) ++ payload

/-! ## The server's reader -/

/-- The next `n` words. -/
def readWords : ℕ → List UInt8 → Option (List UInt32 × List UInt8)
  | 0, bytes => some ([], bytes)
  | n + 1, b3 :: b2 :: b1 :: b0 :: bytes => do
    let (words, rest) ← readWords n bytes
    pure (be32 b3 b2 b1 b0 :: words, rest)
  | _ + 1, _ => none

/-- The next `n` bytes. -/
def readBytes (n : ℕ) (bytes : List UInt8) : Option (List UInt8 × List UInt8) :=
  if n ≤ bytes.length then some (bytes.take n, bytes.drop n) else none

/-- The next message. -/
def readClientMessage : List UInt8 → Option (ClientMessage × List UInt8)
  | 0 :: _ :: _ :: _ :: bytes => do
    let (format, rest) ← readBytes 16 bytes
    if h : format.length = 16 then pure (.setPixelFormat format h, rest) else none
  | 2 :: _ :: hi :: lo :: bytes => do
    let (encodings, rest) ← readWords (be16 hi lo).toNat bytes
    if h : encodings.length < 2 ^ 16 then pure (.setEncodings encodings h, rest) else none
  | 3 :: incremental :: x1 :: x0 :: y1 :: y0 :: w1 :: w0 :: h1 :: h0 :: rest =>
    some (.framebufferUpdateRequest incremental (be16 x1 x0) (be16 y1 y0) (be16 w1 w0)
      (be16 h1 h0), rest)
  | 128 :: etype :: hi :: lo :: bytes => do
    let (payload, rest) ← readBytes (be16 hi lo).toNat bytes
    if h : payload.length < 2 ^ 16 then pure (.extension etype payload h, rest) else none
  | _ => none

/-- All messages of a stream; nothing if something is left that is no message.  A message takes
at least one byte, so that there are no more of them than bytes. -/
def readClientMessagesWithin : ℕ → List UInt8 → Option (List ClientMessage)
  | _, [] => some []
  | 0, _ :: _ => none
  | n + 1, b :: bytes => do
    let (m, rest) ← readClientMessage (b :: bytes)
    let ms ← readClientMessagesWithin n rest
    pure (m :: ms)

def readClientMessages (bytes : List UInt8) : Option (List ClientMessage) :=
  readClientMessagesWithin bytes.length bytes

/-- How far a client has come, and what it has sent. -/
inductive ClientStream where
  | silent
  | version (v : RfbVersion)
  | security (v : RfbVersion) (type : UInt8)
  | session (v : RfbVersion) (type shared : UInt8) (messages : List ClientMessage)
  deriving DecidableEq, Repr

/-- The version a text names. -/
def readVersion (bytes : List UInt8) : Option RfbVersion :=
  if bytes = version37 then some .v37 else if bytes = version38 then some .v38 else none

def readClientStream (bytes : List UInt8) : Option ClientStream :=
  if bytes = [] then some .silent
  else do
    let (text, rest) ← readBytes 12 bytes
    let v ← readVersion text
    match rest with
    | [] => pure (.version v)
    | [type] => pure (.security v type)
    | type :: shared :: rest => do
      let messages ← readClientMessages rest
      pure (.session v type shared messages)

/-! ## The reader undoes the writer -/

/-- Bytes are read from the front. -/
theorem readBytes_append {front rest : List UInt8} {n : ℕ} (h : front.length = n) :
    readBytes n (front ++ rest) = some (front, rest) := by
  subst h
  rw [readBytes, if_pos (by simp), List.take_left, List.drop_left]

/-- Numbers are read from the front. -/
theorem readWords_append (words : List UInt32) (rest : List UInt8) :
    readWords words.length (words.flatMap be32Bytes ++ rest) = some (words, rest) := by
  induction words with
  | nil => rfl
  | cons w words ih =>
    have hword : be32 (w >>> 24).toUInt8 (w >>> 16).toUInt8 (w >>> 8).toUInt8 w.toUInt8 = w :=
      be32_bytes w
    rw [List.length_cons, List.flatMap_cons, List.append_assoc]
    show (readWords words.length (words.flatMap be32Bytes ++ rest) >>= _) = _
    rw [ih]
    show some (be32 _ _ _ _ :: words, rest) = _
    rw [hword]

/-- A count below 2¹⁶ is read as it was written. -/
theorem toNat_count {n : ℕ} (h : n < 2 ^ 16) :
    (be16 (UInt16.ofNat n >>> 8).toUInt8 (UInt16.ofNat n &&& 0xff).toUInt8).toNat = n := by
  rw [be16_bytes, UInt16.toNat_ofNat_of_lt' h]

/-- A message is read back, whatever follows it. -/
theorem readClientMessage_bytes (m : ClientMessage) (rest : List UInt8) :
    readClientMessage (m.bytes ++ rest) = some (m, rest) := by
  cases m with
  | setPixelFormat format length =>
    show (readBytes 16 (format ++ rest) >>= _) = _
    rw [readBytes_append length]
    simp [length]
  | setEncodings encodings count =>
    show (readWords (be16 _ _).toNat (encodings.flatMap be32Bytes ++ rest) >>= _) = _
    rw [toNat_count count, readWords_append]
    simpa using count
  | framebufferUpdateRequest incremental x y w h =>
    show some (_, _) = _
    rw [be16_bytes, be16_bytes, be16_bytes, be16_bytes]
    rfl
  | extension etype payload length =>
    show (readBytes (be16 _ _).toNat (payload ++ rest) >>= _) = _
    rw [toNat_count length, readBytes_append rfl]
    simpa using length

/-- A message begins with its type. -/
theorem ClientMessage.bytes_ne_nil (m : ClientMessage) : ∃ b bs, m.bytes = b :: bs := by
  cases m <;> exact ⟨_, _, rfl⟩

/-- **Messages are read as they were written.** -/
theorem readClientMessagesWithin_bytes (ms : List ClientMessage) (n : ℕ)
    (hn : (ms.flatMap ClientMessage.bytes).length ≤ n) :
    readClientMessagesWithin n (ms.flatMap ClientMessage.bytes) = some ms := by
  induction ms generalizing n with
  | nil => cases n <;> rfl
  | cons m ms ih =>
    obtain ⟨b, bs, hb⟩ := m.bytes_ne_nil
    have hread := readClientMessage_bytes m (ms.flatMap ClientMessage.bytes)
    rw [List.flatMap_cons, hb, List.cons_append] at hn ⊢
    rw [hb, List.cons_append] at hread
    rw [List.length_cons, List.length_append] at hn
    obtain ⟨k, rfl⟩ : ∃ k, n = k + 1 := ⟨n - 1, by omega⟩
    rw [readClientMessagesWithin, hread]
    show (readClientMessagesWithin k (ms.flatMap ClientMessage.bytes) >>= _) = _
    rw [ih k (by omega)]
    rfl

/-- **Round trip.**  What a client sends is read back, message by message. -/
theorem readClientMessages_bytes (ms : List ClientMessage) :
    readClientMessages (ms.flatMap ClientMessage.bytes) = some ms :=
  readClientMessagesWithin_bytes ms _ (le_refl _)

/-- A version is read as it was written. -/
theorem readVersion_bytes (v : RfbVersion) : readVersion v.bytes = some v := by
  cases v <;> decide

/-- A stream may end behind the version. -/
theorem readClientStream_version (v : RfbVersion) :
    readClientStream v.bytes = some (.version v) := by
  cases v <;> decide

/-- Or behind the type of security. -/
theorem readClientStream_security (v : RfbVersion) (type : UInt8) :
    readClientStream (v.bytes ++ [type]) = some (.security v type) := by
  have hne : v.bytes ++ [type] ≠ [] := by simp
  rw [readClientStream, if_neg hne, readBytes_append v.length_bytes]
  show (readVersion v.bytes >>= _) = _
  rw [readVersion_bytes]
  rfl

/-- Or it is a session. -/
theorem readClientStream_session (v : RfbVersion) (type shared : UInt8)
    (ms : List ClientMessage) :
    readClientStream (v.bytes ++ (type :: shared :: ms.flatMap ClientMessage.bytes)) =
      some (.session v type shared ms) := by
  have hne : v.bytes ++ (type :: shared :: ms.flatMap ClientMessage.bytes) ≠ [] := by simp
  rw [readClientStream, if_neg hne, readBytes_append v.length_bytes]
  show (readVersion v.bytes >>= _) = _
  rw [readVersion_bytes]
  show (readClientMessages (ms.flatMap ClientMessage.bytes) >>= _) = _
  rw [readClientMessages_bytes]
  rfl

/-! ## What this client says -/

namespace ClientMessage

/-- MirrorLink, ContextInfo, DesktopSize and Run-Length, with Raw between them. -/
def announcement : ClientMessage :=
  .setEncodings [0xfffffdf3, 0, 0xfffffdf5, 0xfffffdf4, 0xffffff21] (by simp)

/-- An 800x480 display. -/
def displayConfiguration : ClientMessage :=
  .extension 2 [1, 1, 0, 0, 3, 32, 1, 224, 0, 0, 0, 0, 0, 0, 0, 1, 0, 0, 0, 0, 0, 1] (by simp)

/-- All zero but for the last two bytes. -/
def eventConfiguration : ClientMessage :=
  .extension 4 (List.replicate 26 0 ++ [1, 1]) (by simp)

/-- RGB 565. -/
def pixelFormat : ClientMessage :=
  .setPixelFormat [16, 16, 1, 1, 0, 31, 0, 63, 0, 31, 11, 5, 0, 0, 0, 0] rfl

/-- The whole framebuffer. -/
def request (incremental : UInt8) (w h : UInt16) : ClientMessage :=
  .framebufferUpdateRequest incremental 0 0 w h

def byeBye : ClientMessage := .extension 0 [] (Nat.zero_lt_succ _)

/-- The encodings that the client announces. -/
theorem bytes_announcement : announcement.bytes = Program.setEncodings := by decide

/-- Its display configuration. -/
theorem bytes_displayConfiguration : displayConfiguration.bytes = clientDisplayConfiguration := by
  decide

/-- Its event configuration. -/
theorem bytes_eventConfiguration : eventConfiguration.bytes = clientEventConfiguration := by
  decide

/-- Its pixel format. -/
theorem bytes_pixelFormat : pixelFormat.bytes = Program.setPixelFormat := by decide

/-- Its request for an update. -/
theorem bytes_request (incremental : UInt8) (w h : UInt16) :
    (request incremental w h).bytes = Program.framebufferUpdateRequest incremental w h := rfl

/-- Its `ByeBye`. -/
theorem bytes_byeBye : byeBye.bytes = byeByeMessage := by decide

end ClientMessage

open ClientMessage

/-- What a client says in one call of its message loop, and whether it goes on. -/
inductive ClientAnswer : Bool → List ClientMessage → Prop
  | silence : ClientAnswer true []
  | request (incremental : UInt8) (w h : UInt16) :
    ClientAnswer true [.request incremental w h]
  | display : ClientAnswer true [displayConfiguration]
  | event (w h : UInt16) :
    ClientAnswer true [eventConfiguration, pixelFormat, .request 0 w h]
  | byeBye : ClientAnswer false [.byeBye]

/-- What it says in a run of the loop. -/
inductive Conversation : Bool → List ClientMessage → Prop
  | start : Conversation true []
  | answer {ms out : List ClientMessage} {more : Bool} (hms : Conversation true ms)
    (hout : ClientAnswer more out) : Conversation more (ms ++ out)

end MirrorLink.Program
