import StorageBroker.Rehearsal.Accessing
import StorageBroker.Telemetry.Filter
import StorageBroker.Proofs.Refresher.SingleFlight
import StorageBroker.Proofs.Refresher.Barrier
import StorageBroker.Proofs.Refresher.Economy
import StorageBroker.Proofs.Refresher.Linear
import StorageBroker.Proofs.Refresher.Origin
import StorageBroker.Proofs.Decimal.Scaling
import StorageBroker.Proofs.Refresher.Trust
import StorageBroker.Proofs.Refresher.Failure
import StorageBroker.Proofs.Access.Outage
import StorageBroker.Proofs.Credential.Codec
import StorageBroker.Proofs.Table.Change
import StorageBroker.Proofs.Table.Origin
import StorageBroker.Proofs.Table.Hit
import StorageBroker.Proofs.Table.Retention
import StorageBroker.Proofs.Refresher.Capacity
import StorageBroker.Proofs.Refresher.Isolation
import StorageBroker.Proofs.Refresher.Fallback
import StorageBroker.Proofs.Refresher.Waiters
import StorageBroker.Proofs.Refresher.Forecast
import StorageBroker.Proofs.Provider.Setup
import StorageBroker.Proofs.Access.Validation
import StorageBroker.Proofs.Provider.Closing
import StorageBroker.Proofs.Access.Closing
import StorageBroker.Proofs.Provider.Requests
import StorageBroker.Proofs.Access.Requests
import StorageBroker.Proofs.Provider.Collecting
import StorageBroker.Proofs.Credential.Acceptance
import StorageBroker.Proofs.Table.Metastore
import StorageBroker.Proofs.Table.Identifier
import StorageBroker.Proofs.Refresher.Eviction
import StorageBroker.Proofs.Table.Room
import StorageBroker.Proofs.Table.WrittenForm
import StorageBroker.Proofs.Table.MetadataText
import StorageBroker.Proofs.Credential.Selection
import StorageBroker.Proofs.Provider.StaticKeys
import StorageBroker.Proofs.Credential.ClientProperties
import StorageBroker.Proofs.Access.Clients
import StorageBroker.Proofs.Text.Quoted
import StorageBroker.Proofs.Access.Disclosure
