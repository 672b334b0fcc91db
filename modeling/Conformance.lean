import Conformance.Catalogue
import Conformance.Session.Live
import Conformance.Settings.File
import Conformance.Value.Arrangement
import Conformance.Proofs.Exact
import Conformance.Proofs.Terms
import Conformance.Proofs.Defects
import Conformance.Proofs.Objections
import Conformance.Proofs.DraftFour
import Conformance.Proofs.NormalForm
import Conformance.Proofs.Calls
import Conformance.Proofs.Descent
import Conformance.Proofs.Handlers
import Conformance.Proofs.Recall
import Conformance.Proofs.Routing
import Conformance.Proofs.Interference
import Conformance.Proofs.Distinction
import Conformance.Proofs.Options
import Conformance.Proofs.Variables
import Conformance.Proofs.Pulls
import Conformance.Proofs.Portions
import Conformance.Proofs.Loading
import Conformance.Proofs.Verdicts
import Conformance.Proofs.Tightening
import Conformance.Proofs.Bindings
import Conformance.Proofs.Appearance
import Conformance.Proofs.Partition
import Conformance.Proofs.Attempts
import Conformance.Proofs.Widening
import Conformance.Proofs.Descriptions
import Conformance.Proofs.Elsewhere
import Conformance.Proofs.Extension
import Conformance.Proofs.Messages
import Conformance.Proofs.Obedience
