import TypedConfig.Cache.Script
import TypedConfig.Capability.Account
import TypedConfig.Capability.Host
import TypedConfig.CaseFile.Layout
import TypedConfig.CaseFile.Summary
import TypedConfig.Main
import TypedConfig.Proofs.Blame
import TypedConfig.Proofs.Bookkeeping
import TypedConfig.Proofs.Comparison
import TypedConfig.Proofs.Containment
import TypedConfig.Proofs.Encoding
import TypedConfig.Proofs.Filing
import TypedConfig.Proofs.Flattening
import TypedConfig.Proofs.Following
import TypedConfig.Proofs.Freshness
import TypedConfig.Proofs.Grammar
import TypedConfig.Proofs.Independence
import TypedConfig.Proofs.Isolation
import TypedConfig.Proofs.Judging
import TypedConfig.Proofs.Likeness
import TypedConfig.Proofs.Literals
import TypedConfig.Proofs.Marking
import TypedConfig.Proofs.Numerals
import TypedConfig.Proofs.Outline
import TypedConfig.Proofs.Reentrance
import TypedConfig.Proofs.Reliability
import TypedConfig.Proofs.Rendering
import TypedConfig.Proofs.Searching
import TypedConfig.Proofs.Selection
import TypedConfig.Proofs.Transparency
import TypedConfig.Proofs.Viability
import TypedConfig.Resolution.Required
import TypedConfig.Session.Interleaving
import TypedConfig.Session.Request
import TypedConfig.Signature.Layout
import TypedConfig.Standard.Grammar
import TypedConfig.Validator.Leaves
import TypedConfig.Workspace.Action
