import XrtcServer.Common.Loop
import XrtcServer.Pc.Model.DtlsTransport
/-!
# The loop of `_handle_dtls_packet`

The loop as it moves over the packet: `tmp_data` and `tmp_size`, and the
bytes that were read on the way. Positions count from `data`.
-/

namespace XrtcServer

namespace Pc

namespace Dtls

/-- Where the loop is, and the positions it has read. -/
structure RecordCursor where
  tmpData : ℕ
  tmpSize : ℕ
  reads : List ℕ
deriving DecidableEq, Repr

/-- Before the first pass. -/
def RecordCursor.start (data : List UInt8) : RecordCursor :=
  { tmpData := 0, tmpSize := data.length, reads := [] }

/-- One pass. The loop is left with true at its condition, with false by a
`return`, and in either case with what was read. -/
def recordPass (data : List UInt8) (s : RecordCursor) : RecordCursor ⊕ Bool × List ℕ :=
  if s.tmpSize = 0 then .inr (true, s.reads)
  else if s.tmpSize < k_dtls_record_header_len then .inr (false, s.reads)
  else
    let reads := s.reads ++ [s.tmpData + 11, s.tmpData + 12]
    let recordLen := (data.getD (s.tmpData + 11) 0).toNat <<< 8 |||
      (data.getD (s.tmpData + 12) 0).toNat
    if s.tmpSize < recordLen + k_dtls_record_header_len then .inr (false, reads)
    else
      .inl
        { tmpData := s.tmpData + (k_dtls_record_header_len + recordLen)
          tmpSize := s.tmpSize - (k_dtls_record_header_len + recordLen)
          reads := reads }

/-- `_handle_dtls_packet` with at most so many passes of its loop, and the
positions it read. -/
def DtlsTransport.runHandleDtlsPacket (t : DtlsTransport) (passes : ℕ) (data : List UInt8) :
    RecordCursor ⊕ (DtlsTransport × Bool) × List ℕ :=
  (Common.loop (recordPass data) passes (.start data)).map id fun (valid, reads) =>
    if valid then ((t.call (.onReceivedPacket t.downward data), true), reads)
    else ((t, false), reads)

end Dtls

end Pc

end XrtcServer
