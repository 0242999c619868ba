import SecureGuard.Lib.NetworkOrder

/-! # The options of a TCP header

A list of options, each with a kind, a length and data, but for two kinds of one byte: one stands
between options for padding, the other one ends the list. Two options have a meaning here, the
maximum segment size and the window scale; where one comes twice, the last one counts. -/

namespace TcpWire

open NetworkOrder

/-- An option. An option of another kind, or of another length, is data that has no meaning. -/
inductive TcpOption
  | noOperation
  | maximumSegmentSize (size : UInt16)
  | windowScale (shift : UInt8)
  | other (kind : UInt8) (data : List UInt8) (hkind : kind ≠ 0 ∧ kind ≠ 1)
    (hlen : data.length + 2 < 256) (hmss : kind = 2 → data.length ≠ 2)
    (hscale : kind = 3 → data.length ≠ 1)

/-- The bytes of an option. -/
def TcpOption.wire : TcpOption → List UInt8
  | .noOperation => [1]
  | .maximumSegmentSize size => [2, 4] ++ u16 size.toNat
  | .windowScale shift => [3, 3, shift]
  | .other kind data _ _ _ _ => [kind, UInt8.ofNat (data.length + 2)] ++ data

def wire (opts : List TcpOption) : List UInt8 := opts.flatMap TcpOption.wire

/-- What may come behind the options: nothing, or the end of the list and padding. -/
def Padding (bytes : List UInt8) : Prop := bytes = [] ∨ bytes.head? = some 0

/-- The maximum segment size the options say, if any does. -/
def segmentSizeOf (size : UInt16) : List TcpOption → UInt16
  | [] => size
  | .maximumSegmentSize size' :: opts => segmentSizeOf size' opts
  | _ :: opts => segmentSizeOf size opts

/-- The window scale the options say, if any does. -/
def scaleOf (shift : UInt8) : List TcpOption → UInt8
  | [] => shift
  | .windowScale shift' :: opts => scaleOf shift' opts
  | _ :: opts => scaleOf shift opts

theorem wire_cons (opt : TcpOption) (opts : List TcpOption) :
    wire (opt :: opts) = opt.wire ++ wire opts := rfl

end TcpWire
