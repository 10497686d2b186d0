import PeerTracker.Bytes.Order
import PeerTracker.State
import PeerTracker.Text.Decimal

/-!
# The published report

The counters of a tracker as JSON, names in increasing order.
-/

namespace PeerTracker.Http

/-- A JSON object from names, which need no escapes, and written values. -/
def jsonObject (members : List (String × Bytes)) : Bytes :=
  let sorted := members.mergeSort fun a b => !Bytes.before (ascii b.1) (ascii a.1)
  let parts := sorted.map fun m => ascii "\"" ++ ascii m.1 ++ ascii "\":" ++ m.2
  ascii "\x7b" ++ (parts.intersperse (ascii ",")).flatten ++ ascii "\x7d"

def reportBody (s : State) : Bytes :=
  let (counters, hashes, peers) := s.report
  jsonObject [
    ("stats", jsonObject (counters.map fun c => (c.1, Decimal.writeInt c.2.toInt))),
    ("torrents", Decimal.write hashes),
    ("peers", Decimal.write peers)]

end PeerTracker.Http
