import Polymesh.TransferRestrictions
import Polymesh.Settlement.Terminal
import Polymesh.Settlement.Mediators
import Polymesh.Settlement.Investment
import Polymesh.Granularity
import Polymesh.PortfolioRegistry
import Polymesh.Portfolios
import Polymesh.Fees
import Polymesh.Ownership
import Polymesh.Distributions
import Polymesh.Settlement.Receipts
import Polymesh.Settlement.Venues
import Polymesh.Governance.Votes
import Polymesh.Governance.Expiry
import Polymesh.Governance.Thresholds
import Polymesh.Governance.Leeway
import Polymesh.Accounts.Relays
import Polymesh.Accounts.Keys
import Polymesh.Accounts.Proposals
import Polymesh.Currency.Issuance
import Polymesh.Bridge.Limit
import Polymesh.Bridge.Truth
import Polymesh.Bridge.Timelock
import Polymesh.Agents
import Polymesh.Compliance
import Polymesh.Compliance.Complexity
import Polymesh.Metadata.Coherence
import Polymesh.Custody
import Polymesh.Pips.Deposits
import Polymesh.Pips.LifeCycle
import Polymesh.Subsets
import Polymesh.Accounts.Creators
import Polymesh.Vesting
