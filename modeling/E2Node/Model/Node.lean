import E2Node.Kpm.Run
import E2Node.Model.Tally

namespace E2Node

structure Node where
  reporting : Kpm.Reporting
  tallies : List Tally

namespace Node

def kpm (k : Kpm.Service) : ServiceModel Node :=
  k.model.onPart Node.reporting fun r n => { n with reporting := r }

/-- The model that counts at one place of the node's tallies. -/
def tally (place : Nat) (f : RanFunction) : ServiceModel Node :=
  (Tally.model f).onPart (fun n => n.tallies.getD place .zero)
    fun t n => { n with tallies := n.tallies.set place t }

end Node

end E2Node
