import ApplicationLedger.Client.Delivery
import ApplicationLedger.Ingest.Trial
import ApplicationLedger.Main
import ApplicationLedger.Proofs.Blob.Confinement
import ApplicationLedger.Proofs.Blob.Decoding
import ApplicationLedger.Proofs.Blob.Objects
import ApplicationLedger.Proofs.Blob.Search
import ApplicationLedger.Proofs.Blob.Signature
import ApplicationLedger.Proofs.Client.Delivery
import ApplicationLedger.Proofs.Ingest.Calls
import ApplicationLedger.Proofs.Ingest.Endings
import ApplicationLedger.Proofs.Ingest.Interleaving
import ApplicationLedger.Proofs.Ingest.Uploads
import ApplicationLedger.Proofs.Message.Stream
import ApplicationLedger.Proofs.Message.Tolerance
import ApplicationLedger.Proofs.Query.Faults
import ApplicationLedger.Proofs.Query.Meaning
import ApplicationLedger.Proofs.Query.Places
import ApplicationLedger.Proofs.Query.Render
import ApplicationLedger.Proofs.Query.Shape
import ApplicationLedger.Proofs.Retry.Clock
import ApplicationLedger.Proofs.Service.Answers
import ApplicationLedger.Proofs.Service.FileLink
import ApplicationLedger.Proofs.Service.Records
import ApplicationLedger.Proofs.Service.Refusal
import ApplicationLedger.Proofs.Settings.Load
import ApplicationLedger.Proofs.Store.Divisions
import ApplicationLedger.Proofs.Store.Equality
import ApplicationLedger.Proofs.Store.Ledger
import ApplicationLedger.Proofs.Store.Newest
import ApplicationLedger.Proofs.Store.Pages
import ApplicationLedger.Proofs.Store.Retries
import ApplicationLedger.Proofs.Table.Like
import ApplicationLedger.Proofs.Table.Order
import ApplicationLedger.Retry.Script
import ApplicationLedger.Service.Start
