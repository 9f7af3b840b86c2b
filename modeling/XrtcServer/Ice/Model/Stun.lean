import XrtcServer.Base.Model.Rtc
import XrtcServer.Common.Loop
import XrtcServer.Ice.Model.Connection
/-!
# STUN messages

`StunMessage` with its attributes: what is written, what `read` makes of the
bytes of a datagram, and the two checks that work on the bytes themselves.
The classes of `stun.h` are the constructors of `StunAttribute`. Writing an
address fails for IPv6 only, which is left out.
-/

namespace XrtcServer

namespace Ice

open Base Common

/-! ## Constants -/

def k_stun_header_size : ℕ := 20
def k_stun_attribute_header_size : ℕ := 4
def k_stun_magic_cookie_length : ℕ := 4
def k_stun_transaction_id_length : ℕ := 12
def k_stun_magic_cookie : UInt32 := 0x2112A442
def k_stun_message_integrity_size : ℕ := 20
def STUN_FINGERPRINT_XOR_VALUE : UInt32 := 0x5354554e

def STUN_ATTR_USERNAME : UInt16 := 0x0006
def STUN_ATTR_MESSAGE_INTEGRITY : UInt16 := 0x0008
def STUN_ATTR_ERROR_CODE : UInt16 := 0x0009
def STUN_ATTR_XOR_MAPPED_ADDRESS : UInt16 := 0x0020
def STUN_ATTR_PRIORITY : UInt16 := 0x0024
def STUN_ATTR_FINGERPRINT : UInt16 := 0x8028

def STUN_ADDRESS_IPV4 : UInt8 := 1
def STUN_ERROR_GLOBAL_FAIL : ℤ := 600

/-! ## Attributes -/

/-- `StunAttribute`, of the classes `StunByteStringAttribute`,
`StunUint32Attribute`, `StunUint64Attribute`, `StunXorAddressAttribute` with
an IPv4 address, and `StunErrorCodeAttribute` as `create_error_code` and
`set_reason` leave it. -/
inductive StunAttribute where
  | byteString (type : UInt16) (bytes : List UInt8)
  | uint32 (type : UInt16) (bits : UInt32)
  | uint64 (type : UInt16) (bits : UInt64)
  | xorAddress (type : UInt16) (address : SocketAddress)
  | errorCode (type : UInt16) (errorClass number : UInt8) (reason : List UInt8)
deriving DecidableEq

/-- The classes of the values that are read. -/
inductive StunAttributeValueType where
  | unknown
  | uint32
  | byteString
deriving DecidableEq

namespace StunAttribute

def type : StunAttribute → UInt16
  | byteString type _ | uint32 type _ | uint64 type _ | xorAddress type _ | errorCode type .. => type

/-- `length`, a `uint16_t`. -/
def length : StunAttribute → UInt16
  | byteString _ bytes => .ofNat bytes.length
  | uint32 .. => 4
  | uint64 .. => 8
  | xorAddress .. => 8
  | errorCode _ _ _ reason => .ofNat (4 + reason.length)

/-- `create_error_code`, `set_code` and `set_reason`. -/
def ofErrorCode (code : ℤ) (reason : List UInt8) : StunAttribute :=
  .errorCode STUN_ATTR_ERROR_CODE (.ofInt (code.tdiv 100)) (.ofInt (code.tmod 100)) reason

/-- `_get_xored_ip`, of an IPv4 address. -/
def getXoredIp (address : SocketAddress) : UInt32 := address.ip ^^^ k_stun_magic_cookie

/-- `write_padding`. -/
def writePadding (rtc : Rtc) (attr : StunAttribute) (buf : List UInt8) : List UInt8 :=
  let remain := attr.length.toNat % 4
  if remain > 0 then rtc.writeBytes buf (List.replicate (4 - remain) 0) else buf

/-- `write` of the classes. -/
def write (rtc : Rtc) (attr : StunAttribute) (buf : List UInt8) : List UInt8 :=
  match attr with
  | byteString _ bytes => attr.writePadding rtc (rtc.writeBytes buf (bytes.take attr.length.toNat))
  | uint32 _ bits => rtc.writeUInt32 buf bits
  | uint64 _ bits => rtc.writeUInt64 buf bits
  | xorAddress _ address =>
    let buf := rtc.writeUInt8 buf 0
    let buf := rtc.writeUInt8 buf STUN_ADDRESS_IPV4
    let buf := rtc.writeUInt16 buf (address.port ^^^ (k_stun_magic_cookie >>> 16).toUInt16)
    -- the address is in network order already
    rtc.writeBytes buf (beBytes 4 (getXoredIp address).toNat)
  | errorCode _ errorClass number reason =>
    let buf := rtc.writeUInt32 buf (errorClass.toUInt32 <<< 8 ||| number.toUInt32)
    attr.writePadding rtc (rtc.writeBytes buf reason)

/-- `consume_padding`: where the padding is missing, nothing is consumed. -/
def consumePadding (rtc : Rtc) (attrLength : UInt16) (buf : List UInt8) : List UInt8 :=
  let remain := attrLength.toNat % 4
  if remain > 0 then (rtc.consume (4 - remain) buf).getD buf else buf

/-- `read` of `StunByteStringAttribute`. -/
def readByteString (rtc : Rtc) (type attrLength : UInt16) (buf : List UInt8) :
    Option (StunAttribute × List UInt8) :=
  (rtc.readBytes attrLength.toNat buf).map fun (bytes, buf) =>
    (.byteString type bytes, consumePadding rtc attrLength buf)

/-- `read` of `StunUint32Attribute`, whose length is that of its class
whatever the message says. -/
def readUint32 (rtc : Rtc) (type : UInt16) (buf : List UInt8) :
    Option (StunAttribute × List UInt8) :=
  (rtc.readUInt32 buf).map fun (bits, buf) => (.uint32 type bits, buf)

end StunAttribute

/-! ## Messages -/

/-- `IntegrityStatus`. -/
inductive IntegrityStatus where
  | notSet
  | noIntegrity
  | integrityOk
  | integrityBad
deriving DecidableEq

/-- `StunMessage`. The buffer holds the datagram it was read from. -/
structure StunMessage where
  type : UInt16 := 0
  length : UInt16 := 0
  transactionId : List UInt8 := List.replicate 12 48
  attrs : List StunAttribute := []
  integrity : IntegrityStatus := .notSet
  buffer : List UInt8 := []

namespace StunMessage

variable (rtc : Rtc)

/-- `validate_fingerprint`. -/
def validateFingerprint (data : List UInt8) : Bool :=
  let len := data.length
  let fingerprintAttrSize := k_stun_attribute_header_size + 4
  if len % 4 ≠ 0 || len < k_stun_header_size + fingerprintAttrSize then false
  else if rtc.getBE32 (data.drop 4) ≠ k_stun_magic_cookie then false
  else
    let fingerprintAttrData := data.drop (len - fingerprintAttrSize)
    if rtc.getBE16 fingerprintAttrData ≠ STUN_ATTR_FINGERPRINT then false
    else if rtc.getBE16 (fingerprintAttrData.drop 2) ≠ 4 then false
    else
      let fingerprint := rtc.getBE32 (fingerprintAttrData.drop k_stun_attribute_header_size)
      fingerprint ^^^ STUN_FINGERPRINT_XOR_VALUE =
        rtc.computeCrc32 (data.take (len - fingerprintAttrSize))

/-- `get_attribute_value_type`. -/
def getAttributeValueType (type : UInt16) : StunAttributeValueType :=
  if type = STUN_ATTR_USERNAME ∨ type = STUN_ATTR_MESSAGE_INTEGRITY then .byteString
  else if type = STUN_ATTR_PRIORITY then .uint32
  else .unknown

/-- The length an unknown attribute is skipped by, in 16 bits. -/
def skippedLength (attrLength : UInt16) : UInt16 :=
  if attrLength % 4 ≠ 0 then attrLength + (4 - attrLength % 4) else attrLength

/-- The value of an attribute: a value of a known type is read, any other
skipped. -/
def readValue (attrType attrLength : UInt16) (buf : List UInt8) :
    Option (Option StunAttribute × List UInt8) :=
  match getAttributeValueType attrType with
  | .unknown => (rtc.consume (skippedLength attrLength).toNat buf).map fun buf => (none, buf)
  | .byteString =>
    (StunAttribute.readByteString rtc attrType attrLength buf).map fun (attr, buf) => (some attr, buf)
  | .uint32 => (StunAttribute.readUint32 rtc attrType buf).map fun (attr, buf) => (some attr, buf)

/-- What the attribute loop of `read` does with one attribute: it has the
attribute where the type is known, and the bytes after it. -/
def readAttribute (buf : List UInt8) : Option (Option StunAttribute × List UInt8) :=
  match rtc.readUInt16 buf with
  | none => none
  | some (attrType, buf) =>
    match rtc.readUInt16 buf with
    | none => none
    | some (attrLength, buf) => readValue rtc attrType attrLength buf

/-- A pass of the attribute loop, with the attributes read before. -/
def readPass (s : List UInt8 × List StunAttribute) :
    (List UInt8 × List StunAttribute) ⊕ Option (List UInt8 × List StunAttribute) :=
  if s.1.length > 0 then
    match readAttribute rtc s.1 with
    | none => .inr none
    | some (attr, buf) => .inl (buf, s.2 ++ attr.toList)
  else .inr (some s)

/-- The attribute loop. Every pass but the last takes four bytes or more. -/
def readAttributes (buf : List UInt8) : Option (List UInt8 × List StunAttribute) :=
  match loop (readPass rtc) (buf.length + 1) (buf, []) with
  | .inl _ => none
  | .inr r => r

/-- `read`: the message, and what is left of the datagram, where it returns
true. -/
def read (data : List UInt8) : Option (StunMessage × List UInt8) :=
  match rtc.readUInt16 data with
  | none => none
  | some (type, buf) =>
    if type &&& 0x0800 ≠ 0 then none
    else
      match rtc.readUInt16 buf with
      | none => none
      | some (length, buf) =>
        match rtc.readBytes k_stun_magic_cookie_length buf with
        | none => none
        | some (magicCookie, buf) =>
          match rtc.readBytes k_stun_transaction_id_length buf with
          | none => none
          | some (transactionId, buf) =>
            let transactionId :=
              if rtc.getBE32 magicCookie ≠ k_stun_magic_cookie then magicCookie ++ transactionId
              else transactionId
            if buf.length ≠ length.toNat then none
            else
              (readAttributes rtc buf).map fun (buf, attrs) =>
                ({ type := type, length := length, transactionId := transactionId, attrs := attrs,
                   buffer := data }, buf)

/-! ### Queries -/

variable (msg : StunMessage)

/-- `_get_attribute`. -/
def getAttribute (type : UInt16) : Option StunAttribute := msg.attrs.find? (·.type = type)

/-- `get_byte_string`. -/
def getByteString (type : UInt16) : Option (List UInt8) :=
  match msg.getAttribute type with
  | some (.byteString _ bytes) => some bytes
  | _ => none

/-- `get_uint32_t`. -/
def getUint32 (type : UInt16) : Option UInt32 :=
  match msg.getAttribute type with
  | some (.uint32 _ bits) => some bits
  | _ => none

/-- `get_error_code_value`. -/
def getErrorCodeValue : ℤ :=
  match msg.getAttribute STUN_ATTR_ERROR_CODE with
  | some (.errorCode _ errorClass number _) => errorClass.toNat * 100 + number.toNat
  | _ => STUN_ERROR_GLOBAL_FAIL

/-! ### Integrity -/

/-- A pass of the search for the MESSAGE-INTEGRITY attribute, from a
position in the datagram. -/
def integrityPass (data : List UInt8) (currentPos : ℕ) : ℕ ⊕ Option ℕ :=
  if currentPos + k_stun_attribute_header_size ≤ data.length then
    let attrType := rtc.getBE16 (data.drop currentPos)
    let attrLength := (rtc.getBE16 (data.drop (currentPos + 2))).toNat
    if attrType = STUN_ATTR_MESSAGE_INTEGRITY then .inr (some currentPos)
    else
      let currentPos := currentPos + (k_stun_attribute_header_size + attrLength)
      .inl (if attrLength % 4 ≠ 0 then currentPos + (4 - attrLength % 4) else currentPos)
  else .inr none

/-- Where the first MESSAGE-INTEGRITY attribute starts. -/
def findIntegrity (data : List UInt8) : Option ℕ :=
  match loop (integrityPass rtc data) (data.length + 1) k_stun_header_size with
  | .inl _ => none
  | .inr pos => pos

/-- What the HMAC is taken of: the message before the attribute. Where
something follows the attribute, the length field is set to its end. -/
def integrityText (data : List UInt8) (miPos : ℕ) : List UInt8 :=
  let tempData := data.take miPos
  if data.length > miPos + k_stun_attribute_header_size + k_stun_message_integrity_size then
    let extraPos := miPos + k_stun_attribute_header_size + k_stun_message_integrity_size
    let extraSize := data.length - extraPos
    let adjustNewLen := data.length - extraSize - k_stun_header_size
    tempData.take 2 ++ rtc.setBE16 (tempData.drop 2) (.ofNat adjustNewLen)
  else tempData

/-- `_validate_message_integrity_of_type`. -/
def validateMessageIntegrityOfType (data : List UInt8) (password : String) : Bool :=
  if data.length % 4 ≠ 0 || data.length < k_stun_header_size then false
  else if (rtc.getBE16 (data.drop 2)).toNat + k_stun_header_size ≠ data.length then false
  else
    match findIntegrity rtc data with
    | none => false
    | some miPos =>
      let hmac := rtc.computeHmac password (integrityText rtc data miPos)
      if hmac.length ≠ k_stun_message_integrity_size then false
      else
        (data.drop (miPos + k_stun_attribute_header_size)).take k_stun_message_integrity_size = hmac

/-- `validate_message_integrity`. -/
def validateMessageIntegrity (password : String) : IntegrityStatus :=
  if (msg.getByteString STUN_ATTR_MESSAGE_INTEGRITY).isSome then
    if validateMessageIntegrityOfType rtc msg.buffer password then .integrityOk else .integrityBad
  else .noIntegrity

/-! ### Building -/

/-- `add_attribute`. The length is a `uint16_t`. -/
def addAttribute (attr : StunAttribute) : StunMessage :=
  let attrLen := attr.length.toNat
  let attrLen := if attrLen % 4 ≠ 0 then attrLen + (4 - attrLen % 4) else attrLen
  { msg with length := msg.length + .ofNat (attrLen + k_stun_attribute_header_size)
             attrs := msg.attrs ++ [attr] }

/-- `write`. -/
def write : List UInt8 :=
  let buf := rtc.writeUInt16 [] msg.type
  let buf := rtc.writeUInt16 buf msg.length
  let buf := rtc.writeUInt32 buf k_stun_magic_cookie
  let buf := rtc.writeBytes buf msg.transactionId
  msg.attrs.foldl (fun buf attr =>
    attr.write rtc (rtc.writeUInt16 (rtc.writeUInt16 buf attr.type) attr.length)) buf

/-- `add_message_integrity`: the attribute takes part in the text with its
length only. -/
def addMessageIntegrity (password : String) : StunMessage :=
  let placeholder : StunAttribute :=
    .byteString STUN_ATTR_MESSAGE_INTEGRITY (List.replicate k_stun_message_integrity_size 48)
  let added := msg.addAttribute placeholder
  let buf := added.write rtc
  let textLen := buf.length - k_stun_attribute_header_size - placeholder.length.toNat
  let hmac := rtc.computeHmac password (buf.take textLen)
  if hmac.length ≠ k_stun_message_integrity_size then added
  else
    { added with attrs := msg.attrs ++ [.byteString STUN_ATTR_MESSAGE_INTEGRITY hmac]
                 integrity := .integrityOk }

/-- `add_fingerprint`. -/
def addFingerprint : StunMessage :=
  let placeholder : StunAttribute := .uint32 STUN_ATTR_FINGERPRINT 0
  let added := msg.addAttribute placeholder
  let buf := added.write rtc
  let textLen := buf.length - k_stun_attribute_header_size - placeholder.length.toNat
  let c := rtc.computeCrc32 (buf.take textLen)
  { added with
    attrs := msg.attrs ++ [.uint32 STUN_ATTR_FINGERPRINT (c ^^^ STUN_FINGERPRINT_XOR_VALUE)] }

end StunMessage

end Ice

end XrtcServer
