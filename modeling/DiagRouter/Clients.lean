import DiagRouter.Hdlc
import DiagRouter.Lib.Words

/-!
# Clients

The diagnostic monitors and what is queued to them. A queue holds the bytes of
its messages.
-/
namespace DiagRouter.Clients
open DiagRouter.Lib.Words DiagRouter.Hdlc

def NHDLC_CONTROL_CHAR : UInt8 := 0x7e

/-- `enum diag_encode_type`. -/
inductive EncodeType
  | RAW
  | HDLC
  | NHDLC
deriving DecidableEq, Repr

structure DiagClient where
  encode_type : EncodeType
  enabled : Bool
  outq : List (List UInt8)
deriving DecidableEq, Repr

def queue_push (queue : List (List UInt8)) (msg : List UInt8) : List (List UInt8) := queue ++ [msg]

def hdlc_enqueue (queue : List (List UInt8)) (msg : List UInt8) : List (List UInt8) := queue_push queue (hdlc_encode msg)

/-- The frame has a 16-bit length. -/
def queue_push_nhdlc (queue : List (List UInt8)) (msg : List UInt8) : List (List UInt8) :=
  queue ++ [[NHDLC_CONTROL_CHAR,1] ++ le16 (UInt16.ofNat msg.length) ++ msg ++ [NHDLC_CONTROL_CHAR]]

/-- Nothing is queued to a client that is not enabled. -/
def dm_send (dm : DiagClient) (msg : List UInt8) : DiagClient :=
  if dm.enabled then
    match dm.encode_type with
    | .RAW => { dm with outq := queue_push dm.outq msg }
    | .HDLC => { dm with outq := hdlc_enqueue dm.outq msg }
    | .NHDLC => { dm with outq := queue_push_nhdlc dm.outq msg }
  else dm

def set_encode_type (type : EncodeType) (diag_clients : List DiagClient) : List DiagClient :=
  diag_clients.map (fun dm => if dm.encode_type = .RAW then dm else { dm with encode_type := type })

end DiagRouter.Clients
