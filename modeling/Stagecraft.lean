import Stagecraft.Loading.Gate
import Stagecraft.Loading.Sequential
import Stagecraft.Loop.Metrics
import Stagecraft.Main
import Stagecraft.Proofs.Loop.Checkpoints
import Stagecraft.Proofs.Loop.Pacing
import Stagecraft.Proofs.Loop.Requests
import Stagecraft.Proofs.NodeTree.Ancestors
import Stagecraft.Proofs.NodeTree.Clearing
import Stagecraft.Proofs.SceneMap.Rearrangement
import Stagecraft.Proofs.Script.Latches
import Stagecraft.Proofs.Script.Slicing
import Stagecraft.Proofs.Script.Spellings
import Stagecraft.Proofs.Session.SelfDelimiting
import Stagecraft.Proofs.Stage.Blindness
import Stagecraft.Proofs.Stage.FamilyInvariant
import Stagecraft.Proofs.Stage.Fruitless
import Stagecraft.Proofs.Stage.Lives
import Stagecraft.Proofs.Stage.Names
import Stagecraft.Proofs.Stage.Restarting
import Stagecraft.Proofs.Stage.Resumption
import Stagecraft.Proofs.Stage.SingleFlight
import Stagecraft.Proofs.Stage.Survey
import Stagecraft.Proofs.Stage.Timing
import Stagecraft.Proofs.Stage.Walks
import Stagecraft.Proofs.Variables.TotalMaps
