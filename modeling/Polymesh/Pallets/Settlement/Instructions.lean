import Polymesh.Pallets.NFT

/-!
# Settlement: venues and instructions

Venues, and how an instruction is checked and stored (`pallets/settlement/src/lib.rs`). An
instruction starts with every sender pending, every receiver pending or affirmed in
advance, every off-chain leg pending and every mediator pending; the counter of pending
affirmations is their number.
-/

namespace Polymesh

open Transactional Collections
open Function (update)

namespace Settlement

/-! ## The scheduler -/

variable (id : InstructionId) (env : Env) (tickers : List Ticker) (origin : RuntimeOrigin)
  (ticker : Ticker)

/-- Schedule the execution of an instruction. A name that is taken or a block that is not
in the future make the scheduler refuse, which only emits an event. -/
def scheduleInstruction (executionAt : BlockNumber) (y : SystemStorage) : SystemStorage :=
  if y.agenda id = none ∧ y.blockNumber < executionAt then
    { y with agenda := update y.agenda id (some executionAt) }
  else y

/-- Cancel the scheduled execution of an instruction, if there is one. -/
def cancelNamed (y : SystemStorage) : SystemStorage :=
  { y with agenda := update y.agenda id none }

/-! ## Venues -/

/-- A venue that the identity has created. -/
def venueForManagement (id : VenueId) (did : IdentityId) (s : Storage) : Query Venue := do
  let venue ← okOr (s.settlement.venueInfo id) (.settlement .invalidVenue)
  ensure (venue.creator = did) (.settlement .unauthorized)
  return venue

/-- Set or remove a list of signers of a venue. -/
def setVenueSigners (id : VenueId) (signers : List AccountId) (add : Bool) (count : ℕ)
    (t : SettlementStorage) : SettlementStorage :=
  { t with
    venueSigners := update t.venueSigners id (insertAll signers add (t.venueSigners id))
    numberOfVenueSigners := update t.numberOfVenueSigners id count }

/-- A new venue with its signers. -/
def createVenue (signers : List AccountId) (typ : VenueType) : Dispatch Unit := do
  let did ← Tx.read fun _ => env.ensurePerms origin
  Tx.ensure (signers.length ≤ env.maxNumberOfVenueSigners)
    (.settlement .numberOfVenueSignersExceeded)
  let s ← Tx.get
  let id := s.settlement.venueCounter
  let next ← Tx.read fun _ => okOr (checkedInc id.id) .counterOverflow
  Tx.modify <| Storage.mapSettlement fun t =>
    setVenueSigners id signers true signers.length
      { t with
        venueCounter := ⟨next⟩
        venueInfo := update t.venueInfo id (some ⟨did, typ⟩) }

/-- Change the type of a venue. -/
def updateVenueType (id : VenueId) (typ : VenueType) : Dispatch Unit := do
  let did ← Tx.read fun _ => env.ensurePerms origin
  let venue ← Tx.read (venueForManagement id did)
  Tx.modify <| Storage.mapSettlement fun t =>
    { t with venueInfo := update t.venueInfo id (some { venue with venueType := typ }) }

/-- Add signers to a venue, or remove some. -/
def updateVenueSigners (id : VenueId) (signers : List AccountId) (addSigners : Bool) :
    Dispatch Unit := do
  let did ← Tx.read fun _ => env.ensurePerms origin
  let _ ← Tx.read (venueForManagement id did)
  let s ← Tx.get
  let current := s.settlement.numberOfVenueSigners id
  if addSigners then
    Tx.ensure (current + signers.length ≤ env.maxNumberOfVenueSigners)
      (.settlement .numberOfVenueSignersExceeded)
    Tx.ensure (∀ signer ∈ signers, s.settlement.venueSigners id signer = false)
      (.settlement .signerAlreadyExists)
    Tx.modify (Storage.mapSettlement (setVenueSigners id signers true (current + signers.length)))
  else
    Tx.ensure (∀ signer ∈ signers, s.settlement.venueSigners id signer = true)
      (.settlement .signerDoesNotExist)
    Tx.modify (Storage.mapSettlement (setVenueSigners id signers false (current - signers.length)))

/-- Whether venues need to be allowed. -/
def setVenueFiltering (enabled : Bool) : Dispatch Unit := do
  let _ ← Tx.read fun _ => ExternalAgents.ensurePerms env origin ticker
  Tx.modify <| Storage.mapSettlement fun t =>
    { t with venueFiltering := update t.venueFiltering ticker enabled }

/-- Allow or block a list of venues for a ticker. -/
def setVenueAllowList (venues : List VenueId) (allowed : Bool) : Dispatch Unit := do
  let _ ← Tx.read fun _ => ExternalAgents.ensurePerms env origin ticker
  Tx.modify <| Storage.mapSettlement fun t =>
    { t with
      venueAllowList := update t.venueAllowList ticker
        (insertAll venues allowed (t.venueAllowList ticker)) }

/-- Allow venues for the ticker. -/
def allowVenues (venues : List VenueId) : Dispatch Unit :=
  setVenueAllowList env origin ticker venues true

/-- Forbid venues. -/
def disallowVenues (venues : List VenueId) : Dispatch Unit :=
  setVenueAllowList env origin ticker venues false

/-! ## Checks on legs -/

/-- The asset is on the chain. -/
def isOnChainAsset (s : Storage) : Bool := (s.asset.tokens ticker).isSome

/-- Check the venue of a ticker that is not among those checked before. -/
def ensureVenueFiltering (venueId : VenueId) (s : Storage) : Query (List Ticker) :=
  if ticker ∈ tickers then .ok tickers
  else do
    ensure (s.settlement.venueFiltering ticker → s.settlement.venueAllowList ticker venueId)
      (.settlement .unauthorizedVenue)
    return ticker :: tickers

/-- A positive amount of an asset of the chain. -/
def ensureValidFungibleLeg (amount : ℕ) (venueId : VenueId) (s : Storage) :
    Query (List Ticker) := do
  ensure (0 < amount) (.settlement .zeroAmount)
  ensure (isOnChainAsset ticker s) (.settlement .unexpectedOFFChainAsset)
  ensureVenueFiltering tickers ticker venueId s

/-- Different tokens of the chain, within the limit. -/
def ensureValidNftLeg (nfts : NFTs) (venueId : VenueId) (s : Storage) : Query (List Ticker) := do
  ensure (isOnChainAsset nfts.ticker s) (.settlement .unexpectedOFFChainAsset)
  NFT.ensureWithinNftsTransferLimits env nfts
  NFT.ensureNoDuplicateNfts nfts
  ensureVenueFiltering tickers nfts.ticker venueId s

/-- A positive amount between two identities. -/
def ensureValidOffChainLeg (sender receiver : IdentityId) (amount : ℕ) :
    Query Unit := do
  ensure (0 < amount) (.settlement .zeroAmount)
  ensure (sender ≠ receiver) (.settlement .sameSenderReceiver)

/-- The error of a leg that exceeds the number of assets of its kind. -/
def maxAssetsExceeded : Leg → SettlementError
  | .fungible .. => .maxNumberOfFungibleAssetsExceeded
  | .nonFungible .. => .maxNumberOfNFTsExceeded
  | .offChain .. => .maxNumberOfOffChainAssetsExceeded

/-- The checks on a leg by its kind; returns the tickers checked so far. -/
def ensureValidLegKind (venueId : VenueId) (tickers : List Ticker) (s : Storage) :
    Leg → Query (List Ticker)
  | .fungible sender receiver ticker amount => do
    ensure (sender.did ≠ receiver.did) (.settlement .sameSenderReceiver)
    ensureValidFungibleLeg tickers ticker amount venueId s
  | .nonFungible sender receiver nfts => do
    ensure (sender.did ≠ receiver.did) (.settlement .sameSenderReceiver)
    ensureValidNftLeg env tickers nfts venueId s
  | .offChain sender receiver _ amount => do
    ensureValidOffChainLeg sender receiver amount
    return tickers

/-- Check one leg; return the tickers checked so far and the assets counted so far. -/
def ensureValidLeg (leg : Leg) (venueId : VenueId) (tickers : List Ticker) (count : AssetCount)
    (s : Storage) : Query (List Ticker × AssetCount) := do
  let tickers ← ensureValidLegKind env venueId tickers s leg
  let count ← okOr (count.tryAddLeg leg) (.settlement (maxAssetsExceeded leg))
  return (tickers, count)

/-- The portfolios and mediators that a leg involves, added to those of the legs before. -/
def addParties (s : Storage) (leg : Leg) (info : InstructionInfo) : InstructionInfo :=
  match leg.sender?, leg.receiver? with
  | some sender, some receiver =>
    let skip := Portfolio.skipPortfolioAffirmation receiver leg.ticker s
    { info with
      portfoliosPendingApproval :=
        if skip then sender :: info.portfoliosPendingApproval
        else receiver :: sender :: info.portfoliosPendingApproval
      portfoliosPreApproved :=
        if skip then receiver :: info.portfoliosPreApproved else info.portfoliosPreApproved
      mediators := s.asset.mandatoryMediators leg.ticker ++ info.mediators }
  | _, _ => info

/-- The loop of `ensure_valid_legs`. -/
def ensureValidLegsLoop (env : Env) (venueId : VenueId) (s : Storage) :
    List Leg → List Ticker → InstructionInfo → Query InstructionInfo
  | [], _, info => .ok info
  | leg :: legs, tickers, info => do
    let (tickers, count) ←
      ensureValidLeg env leg venueId tickers info.instructionAssetCount s
    ensureValidLegsLoop env venueId s legs tickers
      (addParties s leg { info with instructionAssetCount := count })

/-- Not too many legs of any kind. -/
def ensureWithinInstructionMax (count : AssetCount) : Query Unit := do
  ensure (count.nonFungible ≤ env.maxNumberOfNFTs) (.settlement .maxNumberOfNFTsExceeded)
  ensure (count.fungible ≤ env.maxNumberOfFungibleAssets)
    (.settlement .maxNumberOfFungibleAssetsExceeded)
  ensure (count.offChain ≤ env.maxNumberOfOffChainAssets)
    (.settlement .maxNumberOfOffChainAssetsExceeded)

/-- What the legs involve, if all are valid. -/
def ensureValidLegs (legs : List Leg) (venueId : VenueId) (s : Storage) :
    Query InstructionInfo := do
  let info ← ensureValidLegsLoop env venueId s legs [] ⟨{}, [], [], []⟩
  ensureWithinInstructionMax env info.instructionAssetCount
  return { info with
    portfoliosPendingApproval := orderedSet info.portfoliosPendingApproval
    portfoliosPreApproved := orderedSet info.portfoliosPreApproved
    mediators := orderedSet info.mediators }

/-! ## Adding an instruction -/

/-- The legs of a new instruction under their positions. -/
def insertLegs (legs : List Leg) (m : AList fun _ : LegId => Leg) :
    AList fun _ : LegId => Leg :=
  legs.zipIdx.foldl (fun m l => m.insert l.2 l.1) m

/-- The positions of the off-chain legs. -/
def offChainLegIds (legs : List Leg) : List LegId :=
  (legs.zipIdx.filter fun l => l.1.isOffChain).map Prod.snd

/-- The writes of `base_add_instruction`. -/
def insertInstruction (info : InstructionInfo) (legs : List Leg) (details : Instruction)
    (t : SettlementStorage) : SettlementStorage :=
  { t with
    instructionStatuses := update t.instructionStatuses id .pending
    userAffirmations :=
      insertAll₂ info.portfoliosPreApprovedDifference id .affirmed
        (insertAll₂ info.portfoliosPendingApproval id .pending t.userAffirmations)
    affirmsReceived := update t.affirmsReceived id
      (insertAll info.portfoliosPreApprovedDifference .affirmed (t.affirmsReceived id))
    instructionMediatorsAffirmations :=
      update t.instructionMediatorsAffirmations id
        (info.mediators.foldl (fun m did => m.insert did .pending)
          (t.instructionMediatorsAffirmations id))
    instructionAffirmsPending :=
      update t.instructionAffirmsPending id info.numberOfPendingAffirmations
    instructionLegs :=
      update t.instructionLegs id (insertLegs legs (t.instructionLegs id))
    offChainAffirmations := update t.offChainAffirmations id
      (insertAll (offChainLegIds legs) .pending (t.offChainAffirmations id))
    instructionDetails := update t.instructionDetails id details }

/-- The block to settle in, if any, is in the future. -/
def ensureSettlementType (settlementType : SettlementType) (s : Storage) : Query Unit :=
  match settlementType with
  | .settleOnBlock block =>
    ensure (s.system.blockNumber < block) (.settlement .settleOnPastBlock)
  | _ => .ok ()

/-- The trade date is not after the value date. -/
def ensureDates (tradeDate valueDate : Option Moment) : Query Unit :=
  match tradeDate, valueDate with
  | some trade, some value => ensure (trade ≤ value) (.settlement .instructionDatesInvalid)
  | _, _ => .ok ()

/-- Schedule an instruction that settles on a block. -/
def scheduleOnBlock (settlementType : SettlementType) (y : SystemStorage) : SystemStorage :=
  match settlementType with
  | .settleOnBlock block => scheduleInstruction id block y
  | _ => y

/-- A new instruction, with all its checks. -/
def baseAddInstruction (did : IdentityId) (venueId : VenueId) (settlementType : SettlementType)
    (tradeDate valueDate : Option Moment) (legs : List Leg) (mediators : List IdentityId) :
    Dispatch InstructionId := do
  Tx.read (ensureSettlementType settlementType)
  Tx.read fun _ => ensureDates tradeDate valueDate
  let _ ← Tx.read (venueForManagement venueId did)
  let info ← Tx.read (ensureValidLegs env legs venueId)
  let info := info.extendMediators mediators
  let s ← Tx.get
  let id := s.settlement.instructionCounter
  let next ← Tx.read fun _ => okOr (checkedInc id.id) .counterOverflow
  Tx.modify <| Storage.mapSettlement fun t => { t with instructionCounter := ⟨next⟩ }
  Tx.modify <| Storage.mapSettlement <| insertInstruction id info legs
    ⟨id, venueId, settlementType, some s.system.now, tradeDate, valueDate⟩
  Tx.modify (Storage.mapSystem (scheduleOnBlock id settlementType))
  return id

end Settlement

end Polymesh
