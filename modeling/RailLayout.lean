import RailLayout.Options
import RailLayout.Proofs.Command.Spelling
import RailLayout.Proofs.Frame.Concealed
import RailLayout.Proofs.Frame.Corrupted
import RailLayout.Proofs.Lcs.Answer
import RailLayout.Proofs.Lcs.Folded
import RailLayout.Proofs.Listener
import RailLayout.Proofs.Memory.Written
import RailLayout.Proofs.Record.Carried
import RailLayout.Proofs.State.Accessory.Pressed
import RailLayout.Proofs.State.Motive.Gauge
import RailLayout.Proofs.State.Motive.Pressed
import RailLayout.Proofs.State.Motive.Relatched
import RailLayout.Proofs.State.Motive.Repeated
import RailLayout.Proofs.State.Motive.Shared
import RailLayout.Proofs.State.Overlooked
import RailLayout.Proofs.State.Recorded
import RailLayout.Proofs.State.Resynthesis
import RailLayout.Proofs.State.Silent
import RailLayout.Proofs.State.Unknown
import RailLayout.Proofs.Store.Announced
import RailLayout.Proofs.Store.Bound
import RailLayout.Proofs.Store.Broadcast
import RailLayout.Proofs.Store.Inert
import RailLayout.Proofs.Store.Listed
import RailLayout.Proofs.Store.Numbers
import RailLayout.Proofs.Store.Passed
import RailLayout.Proofs.Store.Replay
import RailLayout.Store.Wait
import RailLayout.Text.Hex
