import InstanceDirectory.Proofs.HostBinding
import InstanceDirectory.Proofs.Rehearsing
import InstanceDirectory.Proofs.Scanning
import InstanceDirectory.Proofs.Streaming
import InstanceDirectory.Proofs.Attribution
import InstanceDirectory.Proofs.Chaining
import InstanceDirectory.Proofs.Confinement
import InstanceDirectory.Proofs.Masking
import InstanceDirectory.Proofs.Marking
import InstanceDirectory.Proofs.Numbering
import InstanceDirectory.Proofs.Paging
import InstanceDirectory.Proofs.Abandoning
import InstanceDirectory.Proofs.Declaring
import InstanceDirectory.Proofs.Fallback
import InstanceDirectory.Proofs.Regrouping
import InstanceDirectory.Proofs.Projecting
import InstanceDirectory.Proofs.Borrowing
import InstanceDirectory.Proofs.Logging
import InstanceDirectory.Proofs.Observing
import InstanceDirectory.Proofs.Reading
import InstanceDirectory.Proofs.Reordering
import InstanceDirectory.Proofs.Escaping
import InstanceDirectory.Proofs.Fitting
import InstanceDirectory.Proofs.Stripping
import InstanceDirectory.Proofs.Tracking
import InstanceDirectory.Proofs.Configuring
import InstanceDirectory.Proofs.Naming
import InstanceDirectory.Proofs.Tracing
import InstanceDirectory.Proofs.Bounding
import InstanceDirectory.Proofs.Closing
import InstanceDirectory.Proofs.Listing
import InstanceDirectory.Proofs.Rereading
