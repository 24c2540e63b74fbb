import Dimensional.Dimension.Reading
import Dimensional.Dimension.Step
import Dimensional.Exponent.Step
import Dimensional.Main
import Dimensional.Proofs.Composition.Stop
import Dimensional.Proofs.Dimension.Difference
import Dimensional.Proofs.Dimension.Run
import Dimensional.Proofs.Dimension.Soundness
import Dimensional.Proofs.Exponent.Traps
import Dimensional.Proofs.Marker.Grammar.Depth
import Dimensional.Proofs.Marker.Parts
import Dimensional.Proofs.Marker.Refusal
import Dimensional.Proofs.Marker.RoundTrip
import Dimensional.Proofs.Matching
import Dimensional.Proofs.Quantity.Comparing
import Dimensional.Proofs.Quantity.Exponents
import Dimensional.Proofs.Quantity.Outcome
import Dimensional.Proofs.Quantity.Worked
import Dimensional.Proofs.Registry.Uniqueness
