import MirrorLink.Program.NetlinkEvent
import MirrorLink.Interface.NetlinkMessages

/-!
# The walk over netlink messages

Each turn of the two loops reads one record and steps over it, whatever is behind it in the
array.  By the rule of the walk the loops come to all attributes of all messages, up to the
first message that ends the walk, and the addresses are those of `onNetlinkEvent`.
-/

set_option autoImplicit false

namespace MirrorLink.Analysis

open MirrorLink.Library MirrorLink.Program

/-! ## One attribute -/

/-- An address in the buffer is the payload it stands in. -/
theorem inAddrAt_eq {buf after payload : List UInt8} {i : ℕ}
    (hbuf : buf.drop i = payload ++ after) (hpayload : 4 ≤ payload.length) :
    inAddrAt buf i = .ok (InAddr.ofBytes payload) := by
  rcases payload with _ | ⟨a, _ | ⟨b, _ | ⟨c, _ | ⟨d, payload⟩⟩⟩⟩
  · exact absurd hpayload (by decide)
  · exact absurd hpayload (by simp)
  · exact absurd hpayload (by simp)
  · exact absurd hpayload (by simp)
  · rw [inAddrAt, hbuf]
    rfl

/-- Behind the length of an attribute is its type, and behind that its payload. -/
theorem newAddressAt_eq {buf after : List UInt8} {ifa i : ℕ} {rta : RtAttr} {ifaFamily : UInt8}
    (hlength : 4 + rta.payload.length < 65536)
    (htype : buf.drop (i + 2) = le16Bytes rta.rtaType ++ (rta.payload ++ after))
    (hfamily : byteAt buf ifa = .ok ifaFamily) :
    newAddressAt buf ifa i (.ofNat (4 + rta.payload.length)) =
      .ok (newAddress ifaFamily rta).toList := by
  have hpayload : buf.drop (i + 2 + 2) = rta.payload ++ after :=
    drop_add_of_append htype (length_le16Bytes rta.rtaType)
  refine bind_eq_ok.mpr ⟨rta.rtaType, le16At_eq htype, ?_⟩
  unfold newAddress
  by_cases haddress : rta.rtaType = ifaAddress
  · rw [if_pos haddress, if_pos haddress]
    refine bind_eq_ok.mpr ⟨ifaFamily, hfamily, ?_⟩
    by_cases hinet : ifaFamily = afInet
    · rw [if_pos hinet, if_pos hinet, UInt16.toNat_ofNat_of_lt' hlength, Nat.add_sub_cancel_left]
      by_cases hshort : rta.payload.length < 4
      · rw [if_pos hshort, if_pos hshort]
        rfl
      · rw [if_neg hshort, if_neg hshort]
        exact bind_eq_ok.mpr ⟨_, inAddrAt_eq hpayload (Nat.le_of_not_lt hshort), rfl⟩
    · rw [if_neg hinet, if_neg hinet]
      rfl
  · rw [if_neg haddress, if_neg haddress]
    rfl

/-- A turn over the attributes reads one of them. -/
theorem attributeTurn_eq {buf after bytes : List UInt8} {ifa i : ℕ} {left : ℤ} {rta : RtAttr}
    {ifaFamily : UInt8} (hrta : AttributeBytes rta bytes) (hbuf : buf.drop i = bytes ++ after)
    (hleft : (bytes.length : ℤ) ≤ left) (hfamily : byteAt buf ifa = .ok ifaFamily) :
    attributeTurn buf ifa i left =
      .ok (some ((newAddress ifaFamily rta).toList, alignTo4 bytes.length)) := by
  obtain ⟨hlength, rfl⟩ := hrta
  rw [List.append_assoc, List.append_assoc] at hbuf
  have hbytes : (le16Bytes (.ofNat (4 + rta.payload.length)) ++ le16Bytes rta.rtaType ++
      rta.payload).length = 4 + rta.payload.length := by
    simp only [List.length_append, length_le16Bytes]
  rw [hbytes] at hleft ⊢
  have htype : buf.drop (i + 2) = le16Bytes rta.rtaType ++ (rta.payload ++ after) :=
    drop_add_of_append hbuf (length_le16Bytes _)
  rw [attributeTurn, if_neg (by push_cast at hleft; omega)]
  refine bind_eq_ok.mpr ⟨_, le16At_eq hbuf, ?_⟩
  rw [UInt16.toNat_ofNat_of_lt' hlength, if_neg (by omega)]
  exact bind_eq_ok.mpr ⟨_, newAddressAt_eq hlength htype hfamily, rfl⟩

/-- No attribute is read when nothing is left. -/
theorem attributeTurn_of_nonpos (buf : List UInt8) (ifa i : ℕ) {left : ℤ} (hleft : left ≤ 0) :
    attributeTurn buf ifa i left = .ok none := by
  rw [attributeTurn, if_pos (by omega)]
  rfl

/-- An attribute is not empty. -/
theorem AttributeBytes.pos {rta : RtAttr} {bytes : List UInt8} (h : AttributeBytes rta bytes) :
    0 < bytes.length := by
  obtain ⟨-, rfl⟩ := h
  rw [List.append_assoc, List.length_append, length_le16Bytes]
  exact Nat.lt_of_lt_of_le Nat.two_pos (Nat.le_add_right _ _)

/-- The loop over the attributes. -/
theorem walk_attributes {buf after bytes : List UInt8} {ifa i turns : ℕ} {ifaFamily : UInt8}
    {attributes : List RtAttr} (h : Padded AttributeBytes attributes bytes)
    (hfamily : byteAt buf ifa = .ok ifaFamily) (hbuf : buf.drop i = bytes ++ after)
    (hturns : bytes.length < turns) :
    walkRecords (attributeTurn buf ifa) turns i bytes.length =
      .ok (attributes.filterMap (newAddress ifaFamily)) := by
  have hwalk := walkRecords_padded (fun _ => False) (fun rta => (newAddress ifaFamily rta).toList)
    (fun _ _ => AttributeBytes.pos) (fun i _ => attributeTurn_of_nonpos buf ifa i)
    (fun _ _ _ _ _ hrta _ hbuf hleft => by
      rw [if_neg not_false]
      exact attributeTurn_eq hrta hbuf hleft hfamily) h hbuf le_rfl hturns
  rw [hwalk, List.filterMap_eq_flatMap_toList, List.takeWhile_eq_self_iff.mpr (by simp)]

/-! ## One message -/

/-- The family of an address stands at its beginning. -/
theorem byteAt_family {buf after body : List UInt8} {nlh : NlMsg} {i : ℕ}
    (hbody : NewAddressBytes nlh body) (hbuf : buf.drop i = body ++ after) :
    byteAt buf i = .ok nlh.ifaFamily := by
  obtain ⟨others, attributes, -, -, rfl⟩ := hbody
  exact byteAt_eq hbuf

/-- Behind the header of a new address are its family and its attributes. -/
theorem newAddressesAt_eq {buf after body : List UInt8} {nlh : NlMsg} {i turns : ℕ}
    (hlength : 16 + body.length < 4294967296)
    (hbody : nlh.nlmsgType = rtmNewAddr → NewAddressBytes nlh body)
    (hbuf : buf.drop (i + 16) = body ++ after) (hturns : body.length < turns) :
    newAddressesAt buf turns i (.ofNat (16 + body.length)) nlh.nlmsgType =
      .ok (newAddresses nlh) := by
  unfold newAddressesAt newAddresses
  by_cases htype : nlh.nlmsgType = rtmNewAddr
  · rw [if_pos htype, if_pos htype, UInt32.toNat_ofNat_of_lt' hlength]
    have hfamily := byteAt_family (hbody htype) hbuf
    obtain ⟨others, attributes, hothers, hpadded, rfl⟩ := hbody htype
    have hifa : (nlh.ifaFamily :: others).length = 8 := by rw [List.length_cons, hothers]
    rw [List.append_assoc] at hbuf
    rw [List.length_append, hifa] at hturns
    have hleft : ((16 + (nlh.ifaFamily :: others ++ attributes).length : ℕ) : ℤ) - 24 =
        (attributes.length : ℕ) := by
      rw [List.length_append, hifa]
      omega
    rw [hleft]
    exact walk_attributes hpadded hfamily (drop_add_of_append hbuf hifa) (by omega)
  · rw [if_neg htype, if_neg htype]
    rfl

/-- **A turn over the messages** reads one of them, and stops at the end or at an error. -/
theorem messageTurn_eq {buf after bytes : List UInt8} {i turns : ℕ} {left : ℤ} {nlh : NlMsg}
    (hnlh : MessageBytes nlh bytes) (hbuf : buf.drop i = bytes ++ after)
    (hleft : (bytes.length : ℤ) ≤ left) (hturns : bytes.length < turns) :
    messageTurn buf turns i left =
      .ok (if nlh.nlmsgType = nlmsgDone ∨ nlh.nlmsgType = nlmsgError then none
        else some (newAddresses nlh, alignTo4 bytes.length)) := by
  obtain ⟨others, body, hothers, hlength, hbody, rfl⟩ := hnlh
  have hbytes : (le32Bytes (.ofNat (16 + body.length)) ++ le16Bytes nlh.nlmsgType ++ others ++
      body).length = 16 + body.length := by
    simp only [List.length_append, length_le32Bytes, length_le16Bytes, hothers]
  rw [hbytes] at hleft hturns ⊢
  have hhead : (le32Bytes (.ofNat (16 + body.length)) ++ le16Bytes nlh.nlmsgType ++
      others).length = 16 := by
    simp only [List.length_append, length_le32Bytes, length_le16Bytes, hothers]
  have hdata : buf.drop (i + 16) = body ++ after := by
    refine drop_add_of_append ?_ hhead
    rw [hbuf, List.append_assoc]
  simp only [List.append_assoc] at hbuf
  have htype := drop_add_of_append hbuf (length_le32Bytes _)
  rw [messageTurn, if_neg (by push_cast at hleft; omega)]
  refine bind_eq_ok.mpr ⟨_, le32At_eq hbuf, ?_⟩
  rw [UInt32.toNat_ofNat_of_lt' hlength, if_neg (by omega)]
  refine bind_eq_ok.mpr ⟨_, le16At_eq htype, ?_⟩
  by_cases hstop : nlh.nlmsgType = nlmsgDone ∨ nlh.nlmsgType = nlmsgError
  · rw [if_pos hstop, if_pos hstop]
    rfl
  · rw [if_neg hstop, if_neg hstop]
    exact bind_eq_ok.mpr ⟨_, newAddressesAt_eq hlength hbody hdata (by omega), rfl⟩

/-- Nothing is read when nothing is left. -/
theorem messageTurn_of_nonpos (buf : List UInt8) (turns i : ℕ) {left : ℤ} (hleft : left ≤ 0) :
    messageTurn buf turns i left = .ok none := by
  rw [messageTurn, if_pos (by omega)]
  rfl

/-- A message is not empty. -/
theorem MessageBytes.pos {nlh : NlMsg} {bytes : List UInt8} (h : MessageBytes nlh bytes) :
    0 < bytes.length := by
  obtain ⟨others, body, -, -, -, rfl⟩ := h
  rw [List.append_assoc, List.append_assoc, List.length_append, length_le32Bytes]
  exact Nat.lt_of_lt_of_le (Nat.succ_pos 3) (Nat.le_add_right _ _)

/-- The loop over the messages. -/
theorem walk_messages {buf after bytes : List UInt8} {i turns : ℕ} {messages : List NlMsg}
    (h : Padded MessageBytes messages bytes) (hbuf : buf.drop i = bytes ++ after)
    (hturns : bytes.length < turns) :
    walkRecords (messageTurn buf turns) turns i bytes.length = .ok (onNetlinkEvent messages) := by
  have hwalk := walkRecords_padded
    (fun nlh : NlMsg => nlh.nlmsgType = nlmsgDone ∨ nlh.nlmsgType = nlmsgError) newAddresses
    (fun _ _ => MessageBytes.pos) (fun i _ => messageTurn_of_nonpos buf turns i)
    (fun _ _ _ _ _ hnlh hmost hbuf hleft =>
      messageTurn_eq hnlh hbuf hleft (Nat.lt_of_le_of_lt hmost hturns)) h hbuf le_rfl hturns
  rw [hwalk, onNetlinkEvent]
  simp only [not_or]

/-! ## The addresses -/

/-- Of the attributes those with an address of four bytes count. -/
theorem filterMap_newAddress_inet (attributes : List RtAttr) :
    attributes.filterMap (newAddress afInet) =
      (attributes.filter fun rta => rta.rtaType = ifaAddress ∧ 4 ≤ rta.payload.length).map
        fun rta => InAddr.ofBytes rta.payload := by
  induction attributes with
  | nil => rfl
  | cons rta attributes ih =>
    by_cases haddress : rta.rtaType = ifaAddress
    · by_cases hshort : rta.payload.length < 4
      · rw [List.filterMap_cons_none (by simp [newAddress, haddress, hshort]),
          List.filter_cons_of_neg (by simp [haddress, hshort]), ih]
      · have hlong : 4 ≤ rta.payload.length := Nat.le_of_not_lt hshort
        have hsome : newAddress afInet rta = some (InAddr.ofBytes rta.payload) := by
          simp [newAddress, haddress, hshort]
        rw [List.filterMap_cons_some hsome,
          List.filter_cons_of_pos (by simp [haddress, hlong]), ih, List.map_cons]
    · rw [List.filterMap_cons_none (by simp [newAddress, haddress]),
        List.filter_cons_of_neg (by simp [haddress]), ih]

/-- Of the messages the new addresses of version 4 count. -/
theorem newAddresses_eq (nlh : NlMsg) :
    newAddresses nlh =
      if nlh.nlmsgType = rtmNewAddr ∧ nlh.ifaFamily = afInet then addressesOf nlh else [] := by
  unfold newAddresses
  by_cases htype : nlh.nlmsgType = rtmNewAddr
  · by_cases hinet : nlh.ifaFamily = afInet
    · rw [if_pos htype, if_pos ⟨htype, hinet⟩, hinet]
      exact filterMap_newAddress_inet nlh.attributes
    · rw [if_pos htype, if_neg fun h => hinet h.2]
      refine List.filterMap_eq_nil_iff.mpr fun rta _ => ?_
      simp [newAddress, hinet]
  · rw [if_neg htype, if_neg fun h => htype h.1]

/-- **The addresses that are announced** are all that is taken. -/
theorem onNetlinkEvent_eq (messages : List NlMsg) :
    onNetlinkEvent messages = announcedAddresses messages := by
  unfold onNetlinkEvent announcedAddresses
  induction messages.takeWhile fun nlh =>
      nlh.nlmsgType ≠ nlmsgDone ∧ nlh.nlmsgType ≠ nlmsgError with
  | nil => rfl
  | cons nlh walked ih =>
    rw [List.flatMap_cons, ih, newAddresses_eq]
    by_cases hnew : nlh.nlmsgType = rtmNewAddr ∧ nlh.ifaFamily = afInet
    · rw [if_pos hnew, List.filter_cons_of_pos (by simpa using hnew), List.flatMap_cons]
    · rw [if_neg hnew, List.filter_cons_of_neg (by simpa using hnew), List.nil_append]

/-! ## Five messages -/

/-- The state of a link, of which nothing is made. -/
def linkMessage : NlMsg := ⟨16, 0, []⟩

/-- A new address, and its label without padding. -/
def labelledAddress : NlMsg := ⟨rtmNewAddr, afInet, [⟨ifaAddress, [192, 168, 42, 129]⟩, ⟨3, [117]⟩]⟩

/-- A new address and nothing else. -/
def bareAddress : NlMsg := ⟨rtmNewAddr, afInet, [⟨ifaAddress, [10, 0, 0, 7]⟩]⟩

def doneMessage : NlMsg := ⟨nlmsgDone, 0, []⟩

def linkBytes : List UInt8 := [19, 0, 0, 0, 16, 0] ++ List.replicate 10 0 ++ [1, 2, 3]

def labelledBytes : List UInt8 :=
  [37, 0, 0, 0, 20, 0, 0, 0, 1, 0, 0, 0, 0, 0, 0, 0, 2, 24, 0, 0, 5, 0, 0, 0,
    8, 0, 1, 0, 192, 168, 42, 129, 5, 0, 3, 0, 117]

def bareBytes : List UInt8 :=
  [32, 0, 0, 0, 20, 0, 0, 0, 1, 0, 0, 0, 0, 0, 0, 0, 2, 24, 0, 0, 5, 0, 0, 0,
    8, 0, 1, 0, 10, 0, 0, 7]

def doneBytes : List UInt8 := [20, 0, 0, 0, 3, 0] ++ List.replicate 10 0 ++ [0, 0, 0, 0]

/-- The message about a link, byte by byte. -/
theorem linkMessage_bytes : MessageBytes linkMessage linkBytes :=
  ⟨List.replicate 10 0, [1, 2, 3], by decide, by decide, fun h => absurd h (by decide), by decide⟩

/-- The message that ends the list. -/
theorem doneMessage_bytes : MessageBytes doneMessage doneBytes :=
  ⟨List.replicate 10 0, [0, 0, 0, 0], by decide, by decide, fun h => absurd h (by decide),
    by decide⟩

/-- An address with its label. -/
theorem labelledAddress_bytes : MessageBytes labelledAddress labelledBytes := by
  have hattributes : Padded AttributeBytes labelledAddress.attributes
      ([8, 0, 1, 0, 192, 168, 42, 129] ++ [] ++ ([5, 0, 3, 0, 117] ++ [])) :=
    .cons ⟨by decide, by decide⟩ rfl (.last ⟨by decide, by decide⟩ (by decide))
  refine ⟨[0, 0, 1, 0, 0, 0, 0, 0, 0, 0], 2 :: [24, 0, 0, 5, 0, 0, 0] ++ _, rfl, ?_,
    fun _ => ⟨[24, 0, 0, 5, 0, 0, 0], _, rfl, hattributes, rfl⟩, ?_⟩
  · decide
  · decide

/-- An address without one. -/
theorem bareAddress_bytes : MessageBytes bareAddress bareBytes := by
  have hattributes : Padded AttributeBytes bareAddress.attributes
      ([8, 0, 1, 0, 10, 0, 0, 7] ++ []) := .last ⟨by decide, by decide⟩ (by decide)
  refine ⟨[0, 0, 1, 0, 0, 0, 0, 0, 0, 0], 2 :: [24, 0, 0, 5, 0, 0, 0] ++ _, rfl, ?_,
    fun _ => ⟨[24, 0, 0, 5, 0, 0, 0], _, rfl, hattributes, rfl⟩, ?_⟩
  · decide
  · decide

/-- A link, two addresses, the end, and an address behind it that nobody looks at. -/
def sampleMessageList : List NlMsg :=
  [linkMessage, labelledAddress, bareAddress, doneMessage, labelledAddress]

/-- Some padding is not zero, and the last message has none. -/
def sampleReceived : List UInt8 :=
  linkBytes ++ [9] ++ (labelledBytes ++ [9, 9, 9] ++ (bareBytes ++ [] ++ (doneBytes ++ [] ++
    (labelledBytes ++ []))))

/-- The messages one behind the other, each padded. -/
theorem padded_sampleMessageList : Padded MessageBytes sampleMessageList sampleReceived :=
  .cons linkMessage_bytes (by decide) <| .cons labelledAddress_bytes (by decide) <|
    .cons bareAddress_bytes (by decide) <| .cons doneMessage_bytes (by decide) <|
      .last labelledAddress_bytes (by decide)

/-! ## The walk -/

/-- **The walk over netlink messages.**  `open_ssdp` is called once for every address of the
messages, in order, and for nothing else; and the loops end. -/
theorem netlink_walk {turns : ℕ} (buf : Block 4096) {messages : List NlMsg}
    {received : List UInt8} (hmessages : Padded MessageBytes messages received)
    (hturns : received.length < turns) :
    onNetlinkReceived turns buf (some received) = .ok (0, announcedAddresses messages) := by
  have hbuf : (overlay received buf.val).drop 0 = received ++ buf.val.drop received.length := rfl
  rw [← onNetlinkEvent_eq]
  exact bind_eq_ok.mpr ⟨_, walk_messages hmessages hbuf hturns, rfl⟩

/-- Five messages of which two bring an address, the last behind the end of the list. -/
theorem netlink_walk_of_messages :
    onNetlinkReceived 200 ⟨List.replicate 4096 0, List.length_replicate⟩ (some sampleReceived) =
      .ok (0, [⟨192, 168, 42, 129⟩, ⟨10, 0, 0, 7⟩]) := by
  have haddresses : announcedAddresses sampleMessageList =
      [⟨192, 168, 42, 129⟩, ⟨10, 0, 0, 7⟩] := by decide
  rw [← haddresses]
  exact netlink_walk _ padded_sampleMessageList (by decide +kernel)

end MirrorLink.Analysis
