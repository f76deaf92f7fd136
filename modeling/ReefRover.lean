import ReefRover.HostFrame
import ReefRover.Main
import ReefRover.Proofs.Codec.Settings
import ReefRover.Proofs.Codec.Spelling
import ReefRover.Proofs.Headless.Report
import ReefRover.Proofs.Machine.Approach
import ReefRover.Proofs.Machine.Conditions
import ReefRover.Proofs.Machine.Iterations
import ReefRover.Proofs.Machine.Journey
import ReefRover.Proofs.Machine.Maneuver
import ReefRover.Proofs.Machine.Waits
import ReefRover.Proofs.Machine.Writers
import ReefRover.Proofs.Ocean.Border
import ReefRover.Proofs.Run.Cadence
import ReefRover.Proofs.Run.Chronicle
import ReefRover.Proofs.Run.Enlarged
import ReefRover.Proofs.Run.Finite
import ReefRover.Proofs.Run.Freeze
import ReefRover.Proofs.Run.Gathering
import ReefRover.Proofs.Run.HostTime
import ReefRover.Proofs.Run.Lifetime
import ReefRover.Proofs.Run.Refusal
import ReefRover.Proofs.Run.Reports
import ReefRover.Proofs.Run.Standstill
import ReefRover.Proofs.Walk.Safety
