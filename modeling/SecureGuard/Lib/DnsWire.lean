import SecureGuard.Lib.NetworkOrder

/-! # DNS messages

The values a DNS message is made of and the bytes that stand for them. What makes a message
well formed is part of the types: labels of 1 to 63 bytes, names of at most 255, targets of 14
bits, addresses of the length their type has, counts and lengths that fit their fields. -/

namespace DnsWire

open NetworkOrder

/-- A label; any byte may stand in it. -/
structure Label where
  bytes : List UInt8
  ne : bytes ≠ []
  le : bytes.length ≤ 63
deriving DecidableEq

def Label.wire (l : Label) : List UInt8 := UInt8.ofNat l.bytes.length :: l.bytes

/-- How a name ends: with the root, or with a pointer to the rest of it. -/
inductive NameEnd
  | root
  | pointer (target : Fin 0x4000)
deriving DecidableEq

def NameEnd.wire : NameEnd → List UInt8
  | .root => [0]
  | .pointer target => u16 (0xc000 + target)

/-- A name as it is written in a message. -/
structure Name where
  labels : List Label
  ending : NameEnd
  le : (labels.flatMap Label.wire ++ ending.wire).length ≤ 255
deriving DecidableEq

def Name.wire (n : Name) : List UInt8 := n.labels.flatMap Label.wire ++ n.ending.wire

structure Question where
  name : Name
  type : UInt16
  cls : UInt16
deriving DecidableEq

def Question.wire (q : Question) : List UInt8 := q.name.wire ++ u16 q.type.toNat ++ u16 q.cls.toNat

/-- The types of address records and the lengths of their addresses. -/
def typeA : UInt16 := 1
def typeAaaa : UInt16 := 28

/-- What follows a record's name. -/
structure Body where
  type : UInt16
  cls : UInt16
  ttl : UInt32
  rdata : List UInt8
  le : rdata.length < 0x10000
  a : type = typeA → rdata.length = 4
  aaaa : type = typeAaaa → rdata.length = 16
deriving DecidableEq

def Body.wire (b : Body) : List UInt8 :=
  u16 b.type.toNat ++ u16 b.cls.toNat ++ u32 b.ttl.toNat ++ u16 b.rdata.length ++ b.rdata

/-- A resource record. -/
structure Record where
  name : Name
  body : Body
deriving DecidableEq

def Record.wire (r : Record) : List UInt8 := r.name.wire ++ r.body.wire

structure Message where
  id : UInt16
  flags : UInt16
  questions : List Question
  answers : List Record
  authority : List Record
  additional : List Record
  questions_lt : questions.length < 0x10000
  answers_lt : answers.length < 0x10000
  authority_lt : authority.length < 0x10000
  additional_lt : additional.length < 0x10000
deriving DecidableEq

namespace Message

/-- The twelve bytes of the header. -/
def header (m : Message) : List UInt8 :=
  u16 m.id.toNat ++ u16 m.flags.toNat ++ u16 m.questions.length ++ u16 m.answers.length ++
    u16 m.authority.length ++ u16 m.additional.length

def wire (m : Message) : List UInt8 :=
  m.header ++ m.questions.flatMap Question.wire ++ m.answers.flatMap Record.wire ++
    m.authority.flatMap Record.wire ++ m.additional.flatMap Record.wire

/-- The QR bit. -/
def isResponse (m : Message) : Prop := 0x8000 ≤ m.flags.toNat

instance (m : Message) : Decidable m.isResponse := inferInstanceAs (Decidable (_ ≤ _))

end Message

/-! ## Lengths -/

@[simp] theorem Message.header_length (m : Message) : m.header.length = 12 := rfl

theorem NameEnd.wire_ne_nil (e : NameEnd) : e.wire ≠ [] := by
  cases e <;> simp [wire, u16]

theorem Name.wire_ne_nil (n : Name) : n.wire ≠ [] := by
  simp [wire, n.ending.wire_ne_nil]

@[simp] theorem Question.wire_length (q : Question) : q.wire.length = q.name.wire.length + 4 := by
  simp [wire]

@[simp] theorem Body.wire_length (b : Body) : b.wire.length = 10 + b.rdata.length := by
  simp only [wire, List.length_append, u16_length, u32_length]

theorem Body.wire_ne_nil (b : Body) : b.wire ≠ [] := by
  intro h
  have hl := b.wire_length
  rw [h, List.length_nil] at hl
  omega

end DnsWire
