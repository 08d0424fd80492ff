import OpcodeShapes.Json.Reader
import OpcodeShapes.Main
import OpcodeShapes.Proofs.Batch
import OpcodeShapes.Proofs.Fallback
import OpcodeShapes.Proofs.Faults
import OpcodeShapes.Proofs.Grammar
import OpcodeShapes.Proofs.LastWrites
import OpcodeShapes.Proofs.Representation
import OpcodeShapes.Proofs.Strictness
import OpcodeShapes.Proofs.Transcript
import OpcodeShapes.Registry.Shared
import OpcodeShapes.Proofs.Leniency
import OpcodeShapes.Proofs.Verdict
import OpcodeShapes.Proofs.Runs
import OpcodeShapes.Proofs.Lookups
import OpcodeShapes.Proofs.Listing
import OpcodeShapes.Proofs.ShapeText
import OpcodeShapes.Proofs.Undo
import OpcodeShapes.Proofs.Reordering
import OpcodeShapes.Proofs.Repetition
import OpcodeShapes.Proofs.CategoryListing
import OpcodeShapes.Proofs.ByteOrder
import OpcodeShapes.Proofs.Precedence
import OpcodeShapes.Proofs.FlagNames
import OpcodeShapes.Proofs.Forms
import OpcodeShapes.Proofs.SharedCalls
import OpcodeShapes.Proofs.WireForm
import OpcodeShapes.Proofs.Arguments
import OpcodeShapes.Proofs.Chains
