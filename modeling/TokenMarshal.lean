import TokenMarshal.Attribute.Code
import TokenMarshal.Attribute.Date
import TokenMarshal.Attribute.Template
import TokenMarshal.Attribute.Value
import TokenMarshal.Config.Basic
import TokenMarshal.Config.Files
import TokenMarshal.Config.Load
import TokenMarshal.Curve.Params
import TokenMarshal.Curve.Table
import TokenMarshal.Der
import TokenMarshal.Device.Basic
import TokenMarshal.Device.Fetch
import TokenMarshal.Fault
import TokenMarshal.Inspect.Arguments
import TokenMarshal.Inspect.Report
import TokenMarshal.Library.Basic
import TokenMarshal.Library.Device
import TokenMarshal.Library.Read
import TokenMarshal.Library.Slot
import TokenMarshal.Main
import TokenMarshal.Marshal.Block
import TokenMarshal.Marshal.Codec
import TokenMarshal.Marshal.Field
import TokenMarshal.Marshal.Word
import TokenMarshal.Module
import TokenMarshal.Oid
import TokenMarshal.Proofs.Attribute.Date
import TokenMarshal.Proofs.Attribute.Template
import TokenMarshal.Proofs.Curve.Params
import TokenMarshal.Proofs.Der
import TokenMarshal.Proofs.Device.Fetch
import TokenMarshal.Proofs.Except
import TokenMarshal.Proofs.Library.Slot
import TokenMarshal.Proofs.Lists
import TokenMarshal.Proofs.Marshal.Block
import TokenMarshal.Proofs.Marshal.Codec
import TokenMarshal.Proofs.Marshal.Word
import TokenMarshal.Proofs.Repair.Flags
import TokenMarshal.Proofs.Repair.Normalize
import TokenMarshal.Proofs.Repair.Point
import TokenMarshal.Proofs.Repair.Signature
import TokenMarshal.Proofs.Session.Point
import TokenMarshal.Proofs.Text.Blank
import TokenMarshal.Proofs.Text.Encoding
import TokenMarshal.Proofs.Text.Numeral
import TokenMarshal.Proofs.Vendor.CodeMap
import TokenMarshal.Proofs.Vendor.Grammar
import TokenMarshal.Proofs.Vendor.Rule
import TokenMarshal.Proofs.Vendor.Rules
import TokenMarshal.Proofs.Vendor.Select
import TokenMarshal.Proofs.Vendor.Translate
import TokenMarshal.Repair.Flags
import TokenMarshal.Repair.Outcome
import TokenMarshal.Repair.Point
import TokenMarshal.Repair.Signature
import TokenMarshal.Session.Basic
import TokenMarshal.Session.Cache
import TokenMarshal.Session.Desk
import TokenMarshal.Simulated.FileTree
import TokenMarshal.Simulated.Library
import TokenMarshal.Simulated.Token
import TokenMarshal.Text.Blank
import TokenMarshal.Text.Case
import TokenMarshal.Text.CaseTables
import TokenMarshal.Text.Encoding
import TokenMarshal.Text.Numeral
import TokenMarshal.Text.Utf8
import TokenMarshal.Toml.Document
import TokenMarshal.Toml.Quoted
import TokenMarshal.Toml.Scalar
import TokenMarshal.Toml.Tree
import TokenMarshal.Vendor.CodeMap
import TokenMarshal.Vendor.File
import TokenMarshal.Vendor.Identity
import TokenMarshal.Vendor.Name
import TokenMarshal.Vendor.Rule
import TokenMarshal.Vendor.Rules
import TokenMarshal.Vendor.Translate
import TokenMarshal.Proofs.Library.Read
import TokenMarshal.Proofs.Device.Repeats
import TokenMarshal.Proofs.Session.Process
import TokenMarshal.Proofs.Session.Coherence
import TokenMarshal.Proofs.Session.Desk
import TokenMarshal.Proofs.Session.Failing
import TokenMarshal.Proofs.Attribute.Coherent
import TokenMarshal.Proofs.Device.Told
import TokenMarshal.Proofs.Session.ReadBack
import TokenMarshal.Proofs.Repair.Numbers
import TokenMarshal.Proofs.Device.Matching
import TokenMarshal.Proofs.Session.Apart
import TokenMarshal.Proofs.Session.Lookup
import TokenMarshal.Proofs.Session.Recency
import TokenMarshal.Proofs.Repair.Again
import TokenMarshal.Proofs.Marshal.Stable
import TokenMarshal.Proofs.Vendor.Accept
import TokenMarshal.Proofs.Vendor.Verbatim
import TokenMarshal.Proofs.Library.Pairing
import TokenMarshal.Proofs.Session.Calls
import TokenMarshal.Proofs.Attribute.Operations
import TokenMarshal.Proofs.Vendor.Places
import TokenMarshal.Proofs.Oid
import TokenMarshal.Proofs.Curve.Resolve
import TokenMarshal.Proofs.Vendor.Lines
import TokenMarshal.Proofs.Library.Whole
import TokenMarshal.Proofs.Config.Discovery
