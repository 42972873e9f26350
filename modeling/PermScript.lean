import PermScript.Main
import PermScript.Proofs.Adoption
import PermScript.Proofs.Aftermath
import PermScript.Proofs.Agreement
import PermScript.Proofs.Atomicity
import PermScript.Proofs.Bodies
import PermScript.Proofs.ByteOrder
import PermScript.Proofs.Coherence
import PermScript.Proofs.Declaration
import PermScript.Proofs.Descent
import PermScript.Proofs.Enlargement
import PermScript.Proofs.Entries
import PermScript.Proofs.FileSystem
import PermScript.Proofs.History
import PermScript.Proofs.Levels
import PermScript.Proofs.Lines
import PermScript.Proofs.Linking
import PermScript.Proofs.Listing
import PermScript.Proofs.Order
import PermScript.Proofs.Pattern
import PermScript.Proofs.PermissionSet
import PermScript.Proofs.Precedence
import PermScript.Proofs.Reach
import PermScript.Proofs.Reading
import PermScript.Proofs.Rearrangement
import PermScript.Proofs.Reloading
import PermScript.Proofs.Reordering
import PermScript.Proofs.Replay
import PermScript.Proofs.Requests
import PermScript.Proofs.Rewriting
import PermScript.Proofs.Run
import PermScript.Proofs.Scopes
import PermScript.Proofs.Statements
import PermScript.Proofs.Steps
import PermScript.Proofs.Table
import PermScript.Proofs.Tally
import PermScript.Proofs.Translation
import PermScript.Proofs.Walk
import PermScript.Proofs.Warnings
import PermScript.Proofs.WorldKeys
import PermScript.Proofs.Writes
import PermScript.VersionStamp
