import MiniMarkup.Asset.Delivery
import MiniMarkup.Json.Records
import MiniMarkup.Markup.Session
import MiniMarkup.Proofs.Events
import MiniMarkup.Proofs.Faults
import MiniMarkup.Proofs.Denotation
import MiniMarkup.Proofs.Outcome
import MiniMarkup.Proofs.Repair
import MiniMarkup.Proofs.Scanner
import MiniMarkup.Proofs.ReadBack
import MiniMarkup.Proofs.ControlPrefix
import MiniMarkup.Proofs.Erasure
import MiniMarkup.Proofs.History
import MiniMarkup.Proofs.Session
import MiniMarkup.Proofs.Comments
import MiniMarkup.Proofs.Places
import MiniMarkup.Proofs.JsonForms
import MiniMarkup.Proofs.OptionsForms
import MiniMarkup.Proofs.Pushes
import MiniMarkup.Proofs.ValueForms
import MiniMarkup.Proofs.Builds
import MiniMarkup.Proofs.Chains
import MiniMarkup.Proofs.KeySplits
import MiniMarkup.Proofs.KeyPlaces
import MiniMarkup.Proofs.LoopKeys
import MiniMarkup.Proofs.Reports
import MiniMarkup.Proofs.Leaves
