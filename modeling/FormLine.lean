import FormLine.Main
import FormLine.Session
import FormLine.Server.Tool
import FormLine.Server.Program
import FormLine.Json.Reader
import FormLine.Proofs.Semantics
import FormLine.Proofs.Spelling
import FormLine.Proofs.Writing
import FormLine.Proofs.Export
import FormLine.Proofs.History
import FormLine.Proofs.FieldMarkup
import FormLine.Proofs.FormCommand
import FormLine.Proofs.Splitting
import FormLine.Proofs.Dispatch
import FormLine.Proofs.ReportCommand
import FormLine.Proofs.SameControl
import FormLine.Proofs.Provenance
import FormLine.Proofs.ReadBack
import FormLine.Proofs.StandardInput
import FormLine.Proofs.Grouping
import FormLine.Proofs.RepeatedFields
import FormLine.Proofs.SettingsHistory
import FormLine.Proofs.Endings
import FormLine.Proofs.DraftSchema
import FormLine.Proofs.TokenViews
