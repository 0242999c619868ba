import SecureGuard.Native.State

/-! # DNS replies (`process_dns_reply`)

The addresses of a reply are added to the IP-to-host cache under the name that was asked
for. The parser walks the payload with a cursor `reply` and a count `len` of the bytes left.
The C `int len` may drop below zero; every test made of it (`len > 0`, `len < 10`,
`len < addr_len`) then answers as it does for zero, so it is a `Nat` here. -/

namespace SecureGuard.Native

/-- A cursor of the parser. -/
structure Cursor where
  reply : Nat
  len : Nat

def Cursor.skip (c : Cursor) (n : Nat) : Cursor := ⟨c.reply + n, c.len - n⟩

variable (l7 : Nat → UInt8)

/-- The inner loop over a question's name: stop at its zero byte. -/
def skipQuestionName : (reply len : Nat) → Cursor
  | reply, 0 => ⟨reply, 0⟩
  | reply, len + 1 =>
    if l7 reply = 0 then ⟨reply, len + 1⟩ else skipQuestionName (reply + 1) len

/-- Skip `n` questions: the name, its zero byte, type and class. -/
def skipQueries : (n : Nat) → Cursor → Cursor
  | 0, c => c
  | n + 1, c =>
    if c.len = 0 then c else skipQueries n ((skipQuestionName l7 c.reply c.len).skip 5)

/-- Skip a record's name: up to a zero byte, or a compression pointer. -/
def skipName : (reply len : Nat) → Cursor
  | reply, 0 => ⟨reply, 0⟩
  | reply, len + 1 =>
    if l7 reply = 0 then ⟨reply + 1, len⟩
    else if l7 reply = 0xc0 then ⟨reply + 2, len - 1⟩
    else skipName (reply + 1) len

/-- The big-endian number in `n` bytes. -/
def beBytes (i n : Nat) : Nat :=
  (List.range n).foldl (fun acc k => acc * 256 + (l7 (i + k)).toNat) 0

/-- The address of an A or AAAA record whose data starts at `i`. -/
def recordAddr (recType addrLen i : Nat) : Option ZdtunIp :=
  if recType = 0x1 ∧ addrLen = 4 then some (BitVec.ofNat 128 (beBytes l7 i 4 <<< 96))
  else if recType = 0x1c ∧ addrLen = 16 then some (BitVec.ofNat 128 (beBytes l7 i 16))
  else none

/-- The addresses of the first `n` answers, in their order. -/
def readAnswers : (n : Nat) → Cursor → List ZdtunIp
  | 0, _ => []
  | n + 1, c =>
    if c.len = 0 then []
    else
      let c := skipName l7 c.reply c.len
      if c.len < 10 then []
      else
        let recType := be16 l7 c.reply
        let addrLen := be16 l7 (c.reply + 8)
        let c := c.skip 10
        if c.len < addrLen then []
        else (recordAddr l7 recType addrLen c.reply).toList ++ readAnswers n (c.skip addrLen)

/-- The addresses `process_dns_reply` adds for a payload of `l7Len` bytes. -/
def dnsReplyAddrs (l7Len : Nat) : List ZdtunIp :=
  let questions := be16 l7 4
  let answRrs := be16 l7 6
  if 0x8000 ≤ be16 l7 2 ∧ questions ≠ 0 ∧ answRrs ≠ 0 then
    readAnswers l7 (min answRrs 32) (skipQueries l7 questions ⟨dnsHeaderLen, l7Len - dnsHeaderLen⟩)
  else []

/-- `process_dns_reply`, with `query` the flow's `host_server_name`. -/
def processDnsReply (lru : IpLru) (query : CStr) (pkt : Packet) : IpLru :=
  if query.isEmpty || !query.contains dot || pkt.l7Len < dnsHeaderLen then lru
  else (dnsReplyAddrs pkt.l7 pkt.l7Len).foldl (fun lru ip => lru.add ip query) lru

end SecureGuard.Native
